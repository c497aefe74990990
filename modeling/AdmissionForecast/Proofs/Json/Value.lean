import AdmissionForecast.Proofs.Json.Normal

/-! # Values that are kept

A value that was read is normal and readable in all its parts. Such a value is read as itself, so
that a map of such values comes back from its object.
-/

namespace AdmissionForecast

namespace StringMap

variable {α : Type} {es : List (String × α)} {k : String} {v : α}

theorem insertEntry_of_lt (h : ∀ e ∈ es, e.1 < k) : insertEntry k v es = es ++ [(k, v)] := by
  induction es with
  | nil => rfl
  | cons e es ih =>
    obtain ⟨he, hes⟩ := List.forall_mem_cons.mp h
    have hne : k ≠ e.1 := fun hk => String.lt_irrefl _ (hk ▸ he)
    rw [insertEntry, if_neg (String.lt_asymm he), if_neg hne, ih hes, List.cons_append]

theorem ofList_entries (m : StringMap α) : ofList m.entries = m := by
  obtain ⟨es, h⟩ := m
  induction es using List.reverseRecOn with
  | nil => rfl
  | append_singleton es e ih =>
    obtain ⟨hes, -, hlt⟩ := List.pairwise_append.mp h
    rw [ofList_concat, ih hes, StringMap.ext_iff]
    exact insertEntry_of_lt fun e' he' => hlt e' he' e List.mem_cons_self

theorem mem_of_mem_ofList {e : String × α} (h : e ∈ (ofList es).entries) : e ∈ es := by
  induction es using List.reverseRecOn with
  | nil => cases h
  | append_singleton es e' ih =>
    rw [ofList_concat] at h
    rcases mem_insertEntry h with rfl | h
    · exact List.mem_concat_self
    · exact List.mem_append_left _ (ih h)

end StringMap

namespace Json

variable {j : Json} {items : List Json} {members : List (String × Json)}

/-- A value as it is kept: readable, and with the members of every object sorted. -/
def IsKept (j : Json) : Prop := j.isReadable = true ∧ j.normal = j

/-- A value without parts. -/
def IsLeaf (j : Json) : Prop := (∀ items, j ≠ array items) ∧ ∀ members, j ≠ object members

@[elab_as_elim]
theorem parts_induction {motive : Json → Prop} (leaf : ∀ j, IsLeaf j → motive j)
    (array : ∀ items, (∀ j ∈ items, motive j) → motive (array items))
    (object : ∀ members, (∀ m ∈ members, motive m.2) → motive (object members)) (j : Json) :
    motive j :=
  Json.rec (motive_1 := motive) (motive_2 := fun items => ∀ j ∈ items, motive j)
    (motive_3 := fun members => ∀ m ∈ members, motive m.2) (motive_4 := fun m => motive m.2)
    (leaf _ ⟨nofun, nofun⟩) (fun _ => leaf _ ⟨nofun, nofun⟩) (fun _ => leaf _ ⟨nofun, nofun⟩)
    (fun _ => leaf _ ⟨nofun, nofun⟩) (fun _ => leaf _ ⟨nofun, nofun⟩) array object
    (leaf _ ⟨nofun, nofun⟩) nofun (fun _ _ hj hitems => List.forall_mem_cons.mpr ⟨hj, hitems⟩)
    nofun (fun _ _ hm hmembers => List.forall_mem_cons.mpr ⟨hm, hmembers⟩) (fun _ _ hj => hj) j

theorem IsLeaf.normal (h : IsLeaf j) : j.normal = j := by
  cases j with
  | array items => exact absurd rfl (h.1 items)
  | object members => exact absurd rfl (h.2 members)
  | _ => rfl

theorem normal_array (items : List Json) : (array items).normal = array (items.map normal) := by
  rw [normal, normalItems_eq_map]

theorem normal_object (members : List (String × Json)) : (object members).normal =
    object (StringMap.ofList (members.map fun m => (m.1, m.2.normal))).entries := by
  rw [normal, normalMembers_eq_map]

theorem exists_of_mem_normal {m : String × Json}
    (h : m ∈ (StringMap.ofList (members.map fun m => (m.1, m.2.normal))).entries) :
    ∃ m' ∈ members, m'.2.normal = m.2 := by
  obtain ⟨m', hm', rfl⟩ := List.mem_map.mp (StringMap.mem_of_mem_ofList h)
  exact ⟨m', hm', rfl⟩

theorem normal_normal (j : Json) : j.normal.normal = j.normal := by
  induction j using parts_induction with
  | leaf j h => rw [h.normal, h.normal]
  | array items ih =>
    rw [normal_array, normal_array, List.map_map]
    exact congrArg array (List.map_congr_left ih)
  | object members ih =>
    rw [normal_object, normal_object]
    generalize hkept : StringMap.ofList (members.map fun m => (m.1, m.2.normal)) = kept
    have hvalues : ∀ m ∈ kept.entries, (m.1, m.2.normal) = id m := by
      intro m hm
      rw [← hkept] at hm
      obtain ⟨m', hm', hv⟩ := exists_of_mem_normal hm
      rw [← hv, ih m' hm', hv, id]
    rw [List.map_congr_left hvalues, List.map_id, StringMap.ofList_entries]

theorem isReadable_normal (h : j.isReadable = true) : j.normal.isReadable = true := by
  induction j using parts_induction with
  | leaf j hl => rwa [hl.normal]
  | array items ih =>
    rw [isReadable, areReadable_iff] at h
    rw [normal_array, isReadable, areReadable_iff]
    intro j hj
    obtain ⟨j', hj', rfl⟩ := List.mem_map.mp hj
    exact ih j' hj' (h j' hj')
  | object members ih =>
    rw [isReadable, haveReadable_iff] at h
    rw [normal_object, isReadable, haveReadable_iff]
    intro m hm
    obtain ⟨m', hm', hv⟩ := exists_of_mem_normal hm
    rw [← hv]
    exact ih m' hm' (h m' hm')

theorem isKept_of_value {j' : Json} (h : Reader.value j = .ok j') : j'.IsKept := by
  unfold Reader.value at h
  split at h
  · rename_i hr
    obtain rfl := Except.ok.inj h
    exact ⟨isReadable_normal hr, normal_normal j⟩
  · cases h

theorem IsKept.value (h : j.IsKept) : Reader.value j = .ok j := by
  rw [Reader.value, if_pos h.1, h.2]

end Json

end AdmissionForecast
