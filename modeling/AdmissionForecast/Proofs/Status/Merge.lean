import AdmissionForecast.Status.Basic
import Mathlib.Data.List.Nodup

/-! # Merging conditions into a status

Merging a condition changes one entry, the first of its type, or adds one at the end. With
distinct types the conditions of a set therefore do not disturb each other, and what a merge
leaves can be read off the status before it.
-/

namespace AdmissionForecast.Status

variable {s : Status} {c : Condition} {set : ConditionSet} {now : Timestamp} {type : String}

def types (s : Status) : List String := s.conditions.map (·.type)

/-- A condition differs from the status stored for its type, or its type is absent. -/
def flips (s : Status) (c : Condition) : Bool := (s.get? c.type).all fun e => e.status ≠ c.status

/-- The entry that a condition leaves for its type. -/
def entryOf (s : Status) (c : Condition) (now : Timestamp) : StatusCondition :=
  (s.get? c.type).elim (.ofCondition c now) fun e => e.update c now

def merge (s : Status) (c : Condition) (now : Timestamp) : Status :=
  ⟨(mergeCondition c now s.conditions).1⟩

section Entries

variable {e : StatusCondition} {es : List StatusCondition}

theorem get?_cons (type : String) : get? ⟨e :: es⟩ type =
    if e.type = type then some e else get? ⟨es⟩ type := by
  by_cases h : e.type = type <;> simp [get?, h]

theorem merge_cons_of_eq (h : e.type = c.type) :
    merge ⟨e :: es⟩ c now = ⟨e.update c now :: es⟩ := by
  simp [merge, mergeCondition, h]

theorem merge_cons_of_ne (h : e.type ≠ c.type) :
    merge ⟨e :: es⟩ c now = ⟨e :: (merge ⟨es⟩ c now).conditions⟩ := by
  simp [merge, mergeCondition, h]

end Entries

theorem get?_merge (s : Status) (c : Condition) (now : Timestamp) (type : String) :
    (s.merge c now).get? type = if c.type = type then some (s.entryOf c now) else s.get? type := by
  obtain ⟨es⟩ := s
  induction es with
  | nil => simp [merge, mergeCondition, entryOf, get?, StatusCondition.ofCondition]
  | cons e es ih =>
    by_cases h : e.type = c.type
    · have hu : (e.update c now).type = c.type := h
      simp only [merge_cons_of_eq h, entryOf, get?_cons, hu, h, if_true, Option.elim_some]
      split <;> rfl
    · have he : entryOf ⟨e :: es⟩ c now = entryOf ⟨es⟩ c now := by
        rw [entryOf, entryOf, get?_cons, if_neg h]
      rw [merge_cons_of_ne h, get?_cons, get?_cons, he, ih]
      by_cases ht : e.type = type
      · rw [if_pos ht, if_pos ht, if_neg fun hc => h (ht.trans hc.symm)]
      · rw [if_neg ht, if_neg ht]

theorem flipped_mergeCondition (s : Status) (c : Condition) (now : Timestamp) :
    (mergeCondition c now s.conditions).2 = s.flips c := by
  obtain ⟨es⟩ := s
  induction es with
  | nil => rfl
  | cons e es ih =>
    by_cases h : e.type = c.type
    · simp [mergeCondition, flips, get?_cons, h]
    · simpa [mergeCondition, flips, get?_cons, h] using ih

theorem types_merge (s : Status) (c : Condition) (now : Timestamp) :
    (s.merge c now).types = s.types ++ if c.type ∈ s.types then [] else [c.type] := by
  obtain ⟨es⟩ := s
  induction es with
  | nil => rfl
  | cons e es ih =>
    by_cases h : e.type = c.type
    · rw [merge_cons_of_eq h, if_pos (by simp [types, h]), List.append_nil]
      rfl
    · have hm : c.type ∈ types ⟨e :: es⟩ ↔ c.type ∈ types ⟨es⟩ := by
        simp [types, Ne.symm h]
      simp only [merge_cons_of_ne h, hm]
      exact congrArg (e.type :: ·) ih

theorem getElem?_merge {i : Nat} {e : StatusCondition} (hi : s.conditions[i]? = some e)
    (h : c.type = e.type → ∃ j < i, s.types[j]? = some e.type) :
    (s.merge c now).conditions[i]? = some e := by
  obtain ⟨es⟩ := s
  induction es generalizing i with
  | nil => cases hi
  | cons x es ih =>
    by_cases hx : x.type = c.type
    · rw [merge_cons_of_eq hx]
      cases i with
      | zero =>
        obtain rfl : x = e := Option.some.inj hi
        obtain ⟨j, hj, -⟩ := h hx.symm
        exact absurd hj (Nat.not_lt_zero j)
      | succ i => exact hi
    · rw [merge_cons_of_ne hx]
      cases i with
      | zero => exact hi
      | succ i =>
        refine ih hi fun hc => ?_
        obtain ⟨j, hj, ht⟩ := h hc
        cases j with
        | zero => exact absurd ((Option.some.inj ht).trans hc.symm) hx
        | succ j => exact ⟨j, Nat.lt_of_succ_lt_succ hj, ht⟩

/-- An entry that already says what a condition says is left as it is, time included. -/
theorem merge_eq_self {e : StatusCondition} (h : s.get? c.type = some e)
    (hs : e.status = c.status) (hr : e.reason = c.reason) (hm : e.message = c.message) :
    s.merge c now = s := by
  obtain ⟨es⟩ := s
  induction es with
  | nil => cases h
  | cons x es ih =>
    rw [get?_cons] at h
    by_cases hx : x.type = c.type
    · rw [if_pos hx] at h
      obtain rfl := Option.some.inj h
      have hu : x.update c now = x := by
        cases x
        simp_all [StatusCondition.update]
      rw [merge_cons_of_eq hx, hu]
    · rw [if_neg hx] at h
      rw [merge_cons_of_ne hx, ih h]

section Apply

theorem foldl_mergeOne (now : Timestamp) (set : ConditionSet) (es : List StatusCondition)
    (k : Nat) : set.foldl (mergeOne now) (es, k) =
      ((set.foldl (mergeOne now) (es, 0)).1, k + (set.foldl (mergeOne now) (es, 0)).2) := by
  induction set generalizing es k with
  | nil => rfl
  | cons c set ih =>
    simp only [List.foldl_cons, mergeOne]
    rw [ih _ (k + _), ih _ (0 + _), Nat.zero_add, Nat.add_assoc]

theorem apply_cons (s : Status) (c : Condition) (set : ConditionSet) (now : Timestamp) :
    s.apply (c :: set) now = (((s.merge c now.truncate).apply set now).1,
      (s.flips c).toNat + ((s.merge c now.truncate).apply set now).2) := by
  simp only [apply, List.foldl_cons, mergeOne, flipped_mergeCondition]
  rw [foldl_mergeOne, Nat.zero_add]
  rfl

theorem flips_merge_of_ne {c' : Condition} (h : c.type ≠ c'.type) :
    (s.merge c now).flips c' = s.flips c' := by
  rw [flips, flips, get?_merge, if_neg h]

theorem entryOf_merge_of_ne {c' : Condition} {t : Timestamp} (h : c.type ≠ c'.type) :
    (s.merge c now).entryOf c' t = s.entryOf c' t := by
  rw [entryOf, entryOf, get?_merge, if_neg h]

theorem get?_apply_of_not_mem (h : type ∉ set.map (·.type)) :
    (s.apply set now).1.get? type = s.get? type := by
  induction set generalizing s with
  | nil => rfl
  | cons c set ih =>
    rw [List.map_cons, List.mem_cons, not_or] at h
    rw [apply_cons, ih h.2, get?_merge, if_neg (Ne.symm h.1)]

theorem get?_apply_of_mem (hn : (set.map (·.type)).Nodup) (hc : c ∈ set) :
    (s.apply set now).1.get? c.type = some (s.entryOf c now.truncate) := by
  induction set generalizing s with
  | nil => cases hc
  | cons x set ih =>
    rw [List.map_cons, List.nodup_cons] at hn
    rw [apply_cons]
    rcases List.mem_cons.mp hc with rfl | hc
    · -- The conditions that follow have other types and leave the entry alone.
      rw [get?_apply_of_not_mem hn.1, get?_merge, if_pos rfl]
    · have hne : x.type ≠ c.type := fun h => hn.1 (h ▸ List.mem_map_of_mem hc)
      rw [ih hn.2 hc, entryOf_merge_of_ne hne]

theorem count_apply (hn : (set.map (·.type)).Nodup) : (s.apply set now).2 = set.countP s.flips := by
  induction set generalizing s with
  | nil => rfl
  | cons c set ih =>
    rw [List.map_cons, List.nodup_cons] at hn
    have hf : set.countP (s.merge c now.truncate).flips = set.countP s.flips := by
      refine List.countP_congr fun x hx => ?_
      have hne : c.type ≠ x.type := fun h => hn.1 (h ▸ List.mem_map_of_mem hx)
      rw [flips_merge_of_ne hne]
    rw [apply_cons, ih hn.2, hf, List.countP_cons]
    cases s.flips c <;> simp [Nat.add_comm]

theorem types_apply (hn : (set.map (·.type)).Nodup) :
    (s.apply set now).1.types = s.types ++ (set.map (·.type)).filter (· ∉ s.types) := by
  induction set generalizing s with
  | nil => simp [apply]
  | cons c set ih =>
    rw [List.map_cons, List.nodup_cons] at hn
    have hf : (set.map (·.type)).filter (· ∉ (s.merge c now.truncate).types) =
        (set.map (·.type)).filter (· ∉ s.types) := by
      refine List.filter_congr fun t ht => ?_
      have hne : t ≠ c.type := fun h => hn.1 (h ▸ ht)
      rw [types_merge]
      split <;> simp [hne]
    rw [apply_cons, ih hn.2, hf, types_merge, List.map_cons, List.filter_cons]
    by_cases hm : c.type ∈ s.types <;> simp [hm]

theorem nodup_types_apply (hn : (set.map (·.type)).Nodup) (hs : s.types.Nodup) :
    (s.apply set now).1.types.Nodup := by
  rw [types_apply hn]
  refine hs.append (hn.filter _) ?_
  intro t ht hm
  simpa [ht] using (List.mem_filter.mp hm).2

theorem getElem?_types_merge {j : Nat} {t : String} (h : s.types[j]? = some t) :
    (s.merge c now).types[j]? = some t := by
  obtain ⟨hj, -⟩ := List.getElem?_eq_some_iff.mp h
  rw [types_merge, List.getElem?_append_left hj, h]

/-- Entries of foreign types, and all but the first of a type, stay in place as they are. -/
theorem getElem?_apply {i : Nat} {e : StatusCondition} (hi : s.conditions[i]? = some e)
    (h : e.type ∈ set.map (·.type) → ∃ j < i, s.types[j]? = some e.type) :
    (s.apply set now).1.conditions[i]? = some e := by
  induction set generalizing s with
  | nil => exact hi
  | cons c set ih =>
    rw [apply_cons]
    have hm : (s.merge c now.truncate).conditions[i]? = some e :=
      getElem?_merge hi fun hc => h (hc ▸ List.mem_cons_self)
    refine ih hm fun ht => ?_
    obtain ⟨j, hj, hs⟩ := h (List.mem_cons_of_mem _ ht)
    exact ⟨j, hj, getElem?_types_merge hs⟩

theorem apply_eq_self (h : ∀ c ∈ set, ∃ e, s.get? c.type = some e ∧ e.status = c.status ∧
    e.reason = c.reason ∧ e.message = c.message) (now : Timestamp) : s.apply set now = (s, 0) := by
  induction set with
  | nil => rfl
  | cons c set ih =>
    obtain ⟨e, he, hs, hr, hm⟩ := h c List.mem_cons_self
    have hf : s.flips c = false := by simp [flips, he, hs]
    rw [apply_cons, merge_eq_self he hs hr hm, ih fun x hx => h x (List.mem_cons_of_mem _ hx), hf]
    rfl

end Apply

end AdmissionForecast.Status
