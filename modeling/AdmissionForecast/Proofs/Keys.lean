import AdmissionForecast.Proofs.Json.Normal
import Mathlib.Data.List.Nodup

/-! # Keys of maps

Every entry of a map is found by its key. The keys of a map that is made from a list are those of
the list, and the first of them is the least. A map is known by its look-ups, so the order of a
list without repeated keys makes no difference to its map.
-/

namespace AdmissionForecast

namespace StringMap

variable {α : Type} {m m' : StringMap α} {k : String} {v : α} {es es' : List (String × α)}

theorem pairwise_keys (m : StringMap α) : m.keys.Pairwise (· < ·) :=
  List.pairwise_map.mpr m.ascending

theorem nodup_keys (m : StringMap α) : m.keys.Nodup := by
  refine m.pairwise_keys.imp fun {a b} h => ?_
  rintro rfl
  exact String.lt_irrefl a h

theorem get?_of_mem {e : String × α} (h : e ∈ m.entries) : m.get? e.1 = some e.2 := by
  rw [get?, Option.map_eq_some_iff]
  cases hf : m.entries.find? (fun e' => e'.1 = e.1) with
  | none => exact absurd (List.find?_eq_none.mp hf e h) (by simp)
  | some e' =>
    have hkey : e'.1 = e.1 := by simpa using List.find?_some hf
    have heq : e' = e :=
      List.inj_on_of_nodup_map m.nodup_keys (List.mem_of_find?_eq_some hf) h hkey
    exact ⟨e, congrArg some heq, rfl⟩

theorem mem_keys_iff : k ∈ m.keys ↔ (m.get? k).isSome = true := by
  simp [keys, get?, List.find?_isSome]

theorem contains_iff_mem_keys : m.contains k = true ↔ k ∈ m.keys := by
  simp [contains, keys]

theorem get?_modify (m : StringMap α) (k : String) (f : Option α → α) (k' : String) :
    (m.modify k f).get? k' = if k = k' then some (f (m.get? k)) else m.get? k' :=
  get?_insert m k _ k'

theorem mem_keys_ofList_iff : k ∈ (ofList es).keys ↔ k ∈ es.map Prod.fst := by
  rw [mem_keys_iff, get?_ofList]
  simp [List.find?_isSome]

theorem head?_keys_eq_some_iff : m.keys.head? = some k ↔ k ∈ m.keys ∧ ∀ k' ∈ m.keys, k ≤ k' := by
  have hp := m.pairwise_keys
  generalize m.keys = ks at hp
  cases ks with
  | nil => simp
  | cons least rest =>
    have hleast : ∀ k' ∈ least :: rest, least ≤ k' :=
      List.forall_mem_cons.mpr ⟨String.le_refl least,
        fun k' hk' => String.not_lt.mp (String.lt_asymm (List.rel_of_pairwise_cons hp hk'))⟩
    rw [List.head?_cons, Option.some_inj]
    constructor
    · rintro rfl
      exact ⟨List.mem_cons_self, hleast⟩
    · rintro ⟨hk, hle⟩
      exact String.le_antisymm (hleast k hk) (hle least List.mem_cons_self)

theorem mem_entries_iff {e : String × α} : e ∈ m.entries ↔ m.get? e.1 = some e.2 := by
  refine ⟨get?_of_mem, fun h => ?_⟩
  obtain ⟨e', hf, hv⟩ := Option.map_eq_some_iff.mp h
  have hk : e'.1 = e.1 := by simpa using List.find?_some hf
  exact (Prod.ext hk hv : e' = e) ▸ List.mem_of_find?_eq_some hf

theorem ext_get? (h : ∀ k, m.get? k = m'.get? k) : m = m' := by
  have hn (m : StringMap α) : m.entries.Nodup := List.Nodup.of_map _ m.nodup_keys
  have hperm : m.entries.Perm m'.entries :=
    (List.perm_ext_iff_of_nodup (hn m) (hn m')).mpr fun e => by
      rw [mem_entries_iff, mem_entries_iff, h]
  refine StringMap.ext (hperm.eq_of_pairwise ?_ m.ascending m'.ascending)
  exact fun a b _ _ hab hba => absurd hba (String.lt_asymm hab)

theorem get?_ofList_eq_some_iff (hn : (es.map Prod.fst).Nodup) :
    (ofList es).get? k = some v ↔ (k, v) ∈ es := by
  rw [get?_ofList, Option.map_eq_some_iff]
  constructor
  · rintro ⟨e, hf, rfl⟩
    obtain rfl : e.1 = k := by simpa using List.find?_some hf
    exact List.mem_reverse.mp (List.mem_of_find?_eq_some hf)
  · intro h
    have hs : (es.reverse.find? fun e => e.1 = k).isSome = true :=
      List.find?_isSome.mpr ⟨(k, v), List.mem_reverse.mpr h, by simp⟩
    obtain ⟨e, he⟩ := Option.isSome_iff_exists.mp hs
    have hk : e.1 = k := by simpa using List.find?_some he
    have heq : e = (k, v) := List.inj_on_of_nodup_map hn
      (List.mem_reverse.mp (List.mem_of_find?_eq_some he)) h hk
    exact ⟨e, he, heq ▸ rfl⟩

theorem ofList_perm (hn : (es.map Prod.fst).Nodup) (h : es.Perm es') : ofList es = ofList es' := by
  refine ext_get? fun k => Option.ext fun v => ?_
  rw [get?_ofList_eq_some_iff hn, get?_ofList_eq_some_iff ((h.map Prod.fst).nodup_iff.mp hn),
    h.mem_iff]

theorem ofList_append_cons (before after : List (String × α)) (k : String) (v : α) :
    ofList (before ++ (k, v) :: after) =
      if k ∈ after.map Prod.fst then ofList (before ++ after)
      else (ofList (before ++ after)).insert k v := by
  have hlast {q : String} (hq : k ≠ q) :
      (ofList (before ++ (k, v) :: after)).get? q = (ofList (before ++ after)).get? q := by
    simp [get?_ofList, List.find?_append, hq]
  split
  · rename_i hk
    refine ext_get? fun q => ?_
    by_cases hq : k = q
    · have hs : (after.reverse.find? fun e => e.1 = q).isSome = true := by
        simpa [List.find?_isSome, hq] using hk
      obtain ⟨e, he⟩ := Option.isSome_iff_exists.mp hs
      simp [get?_ofList, List.find?_append, he]
    · exact hlast hq
  · rename_i hk
    refine ext_get? fun q => ?_
    rw [get?_insert]
    split
    · rename_i hq
      have hnone : after.reverse.find? (fun e => e.1 = q) = none :=
        List.find?_eq_none.mpr fun e he => by
          have hne : e.1 ≠ k := fun hc => hk (hc ▸ List.mem_map_of_mem (List.mem_reverse.mp he))
          simpa [← hq] using hne
      simp [get?_ofList, List.find?_append, hnone, hq]
    · rename_i hq
      exact hlast hq

/-- Where an entry goes does not depend on its value: either there is a place for it, or one that
an entry of its key has taken. -/
theorem insertEntry_split (k : String) (es : List (String × α)) :
    ∃ before after, (∀ v, insertEntry k v es = before ++ (k, v) :: after) ∧
      (es = before ++ after ∨ ∃ v, es = before ++ (k, v) :: after) := by
  induction es with
  | nil => exact ⟨[], [], fun _ => rfl, .inl rfl⟩
  | cons e es ih =>
    by_cases hlt : k < e.1
    · exact ⟨[], e :: es, fun v => by simp [insertEntry, hlt], .inl rfl⟩
    · by_cases heq : k = e.1
      · exact ⟨[], es, fun v => by simp [insertEntry, heq],
          .inr ⟨e.2, by simp [heq]⟩⟩
      · obtain ⟨before, after, hinsert, hes⟩ := ih
        refine ⟨e :: before, after, fun v => by simp [insertEntry, hlt, heq, hinsert], ?_⟩
        rcases hes with rfl | ⟨v, rfl⟩
        · exact .inl rfl
        · exact .inr ⟨v, rfl⟩

end StringMap

end AdmissionForecast
