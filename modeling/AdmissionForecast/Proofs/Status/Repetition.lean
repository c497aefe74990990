import AdmissionForecast.Proofs.Status.History

/-! # Merging a set again

A set whose conditions of one type agree in status flips nothing when it is merged again, so that
times stay as they are, and of each type its last condition is shown already. Hence nothing
changes at all. Where two conditions of one type differ in status each flips the other.
-/

namespace AdmissionForecast

namespace ConditionSet

/-- Conditions of one type have one status. -/
def Agrees (set : ConditionSet) : Prop :=
  ∀ c ∈ set, ∀ c' ∈ set, c.type = c'.type → c.status = c'.status

def last? (set : ConditionSet) (type : String) : Option Condition :=
  set.reverse.find? fun c => c.type = type

variable {set : ConditionSet} {c : Condition} {type : String}

theorem agrees_of_nodup (h : (set.map (·.type)).Nodup) : Agrees set := by
  intro c hc c' hc' ht
  rw [List.inj_on_of_nodup_map h hc hc' ht]

theorem last?_cons (c : Condition) (set : ConditionSet) (type : String) :
    last? (c :: set) type = (last? set type).or (if c.type = type then some c else none) := by
  rw [last?, List.reverse_cons, List.find?_append, last?]
  by_cases h : c.type = type <;> simp [h]

theorem last?_eq_none_iff : last? set type = none ↔ type ∉ set.map (·.type) := by
  simp [last?]

theorem mem_of_last? (h : last? set type = some c) : c ∈ set ∧ c.type = type :=
  ⟨List.mem_reverse.mp (List.mem_of_find?_eq_some h), by simpa using List.find?_some h⟩

end ConditionSet

namespace Status

open ConditionSet (Agrees last?)

variable {s s' : Status} {set : ConditionSet} {c : Condition} {now later : Timestamp}
  {type : String} {e : StatusCondition} {i : Nat}

theorem type_of_get? (h : s.get? type = some e) : e.type = type := by
  simpa using List.find?_some h

theorem mem_types_of_get? (h : s.get? type = some e) : type ∈ s.types :=
  List.mem_map.mpr ⟨e, List.mem_of_find?_eq_some h, type_of_get? h⟩

theorem get?_of_first (hi : s.conditions[i]? = some e)
    (hfirst : ∀ j < i, s.types[j]? ≠ some e.type) : s.get? e.type = some e := by
  obtain ⟨hlt, he⟩ := List.getElem?_eq_some_iff.mp hi
  refine List.find?_eq_some_iff_getElem.mpr ⟨by simp, i, hlt, he, fun j hj => ?_⟩
  have hne := hfirst j hj
  rw [types, List.getElem?_map, List.getElem?_eq_getElem (Nat.lt_trans hj hlt)] at hne
  simpa using hne

/-- Two statuses are the same if they have the same types in order, the same first entry of each
type, and the same later entries. -/
theorem eq_of_get? (htypes : s.types = s'.types) (hget : ∀ type, s.get? type = s'.get? type)
    (hlater : ∀ (i : Nat) (e : StatusCondition), s.conditions[i]? = some e →
      (∃ j < i, s.types[j]? = some e.type) → s'.conditions[i]? = some e) : s = s' := by
  have hi (i : Nat) : s.conditions[i]? = s'.conditions[i]? := by
    have ht : (s.conditions[i]?).map (·.type) = (s'.conditions[i]?).map (·.type) := by
      simpa [types] using congrArg (·[i]?) htypes
    cases he : s.conditions[i]? with
    | none =>
      rw [he, Option.map_none] at ht
      exact (Option.map_eq_none_iff.mp ht.symm).symm
    | some e =>
      by_cases hj : ∃ j < i, s.types[j]? = some e.type
      · rw [hlater i e he hj]
      · have hfirst : ∀ j < i, s.types[j]? ≠ some e.type := fun j hlt hc => hj ⟨j, hlt, hc⟩
        rw [he] at ht
        obtain ⟨e', he', hte⟩ := Option.map_eq_some_iff.mp ht.symm
        have hg := get?_of_first he hfirst
        have hg' := get?_of_first he' (by rwa [← htypes, hte])
        rw [he', ← hg, ← hg', hget, hte]
  cases s
  cases s'
  exact congrArg Status.mk (List.ext_getElem? hi)

/-- Each condition of a set finds its own status. -/
def Settled (s : Status) (set : ConditionSet) : Prop :=
  ∀ c ∈ set, ∃ e, s.get? c.type = some e ∧ e.status = c.status

theorem get?_apply_of_last? (s : Status) (now : Timestamp) (h : last? set type = some c) :
    ∃ e, (s.apply set now).1.get? type = some e ∧ e.status = c.status ∧ e.reason = c.reason ∧
      e.message = c.message := by
  induction set generalizing s with
  | nil => cases h
  | cons x set ih =>
    rw [apply_cons]
    rw [ConditionSet.last?_cons] at h
    cases hl : last? set type with
    | some c' =>
      rw [hl] at h
      obtain rfl : c' = c := Option.some.inj h
      exact ih _ hl
    | none =>
      rw [hl, Option.none_or, Option.ite_none_right_eq_some] at h
      obtain ⟨ht, hx⟩ := h
      obtain rfl : x = c := Option.some.inj hx
      refine ⟨s.entryOf x now.truncate, ?_, entryOf_current s x now.truncate⟩
      rw [get?_apply_of_not_mem (ConditionSet.last?_eq_none_iff.mp hl), get?_merge, if_pos ht]

theorem settled_apply (s : Status) (now : Timestamp) (h : Agrees set) :
    Settled (s.apply set now).1 set := by
  intro c hc
  cases hl : last? set c.type with
  | none => exact absurd (List.mem_map_of_mem hc) (ConditionSet.last?_eq_none_iff.mp hl)
  | some c' =>
    obtain ⟨e, he, hs, -⟩ := get?_apply_of_last? s now hl
    obtain ⟨hc', ht⟩ := ConditionSet.mem_of_last? hl
    exact ⟨e, he, hs.trans (h c' hc' c hc ht)⟩

theorem Settled.merge (h : Settled s (c :: set)) (now : Timestamp) :
    Settled (s.merge c now) set := by
  intro c' hc'
  obtain ⟨e', he', hs'⟩ := h c' (List.mem_cons_of_mem _ hc')
  rw [get?_merge]
  by_cases ht : c.type = c'.type
  · obtain ⟨e, he, hs⟩ := h c List.mem_cons_self
    obtain rfl : e = e' := Option.some.inj (he.symm.trans (ht ▸ he'))
    rw [if_pos ht]
    exact ⟨_, rfl, (entryOf_current s c now).1.trans (hs.symm.trans hs')⟩
  · rw [if_neg ht]
    exact ⟨e', he', hs'⟩

theorem Settled.types_apply (h : Settled s set) (now : Timestamp) :
    (s.apply set now).1.types = s.types := by
  induction set generalizing s with
  | nil => rfl
  | cons c set ih =>
    obtain ⟨e, he, -⟩ := h c List.mem_cons_self
    rw [apply_cons, ih (h.merge _), types_merge, if_pos (mem_types_of_get? he), List.append_nil]

theorem Settled.time_apply (h : Settled s set) (now : Timestamp) (he : s.get? type = some e) :
    ∃ e', (s.apply set now).1.get? type = some e' ∧
      e'.lastTransitionTime = e.lastTransitionTime := by
  induction set generalizing s e with
  | nil => exact ⟨e, he, rfl⟩
  | cons c set ih =>
    obtain ⟨e₀, he₀, hs⟩ := h c List.mem_cons_self
    rw [apply_cons]
    by_cases ht : c.type = type
    · obtain rfl : e₀ = e := Option.some.inj (he₀.symm.trans (ht ▸ he))
      have hm : (s.merge c now.truncate).get? type = some (e₀.update c now.truncate) := by
        rw [get?_merge, if_pos ht, entryOf, he₀]
        rfl
      obtain ⟨e', he', hte⟩ := ih (h.merge _) hm
      exact ⟨e', he', hte.trans (if_pos hs)⟩
    · have hm : (s.merge c now.truncate).get? type = some e := by rwa [get?_merge, if_neg ht]
      exact ih (h.merge _) hm

theorem apply_apply (s : Status) (now later : Timestamp) (h : Agrees set) :
    ((s.apply set now).1.apply set later).1 = (s.apply set now).1 := by
  have hset := settled_apply s now h
  refine (eq_of_get? (hset.types_apply later).symm (fun type => ?_) fun i e hi hj => ?_).symm
  · cases hl : last? set type with
    | none => exact (get?_apply_of_not_mem (ConditionSet.last?_eq_none_iff.mp hl)).symm
    | some c =>
      obtain ⟨e, he, hs, hr, hm⟩ := get?_apply_of_last? s now hl
      obtain ⟨e', he', hs', hr', hm'⟩ := get?_apply_of_last? (s.apply set now).1 later hl
      obtain ⟨e'', he'', ht⟩ := hset.time_apply later he
      obtain rfl : e' = e'' := Option.some.inj (he'.symm.trans he'')
      have htype := (type_of_get? he).trans (type_of_get? he').symm
      rw [he, he']
      cases e
      cases e'
      simp_all
  · exact getElem?_apply hi fun _ => hj

end Status

end AdmissionForecast
