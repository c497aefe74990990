/-! # Maps from text

A finite map whose keys are texts, kept as its entries in ascending order of code points.
Equal maps have equal entries, so two maps with the same look-ups are the same map.
-/

namespace AdmissionForecast

/-- A map from text, as its entries with strictly ascending keys. -/
@[ext]
structure StringMap (α : Type) where
  entries : List (String × α)
  ascending : entries.Pairwise (fun a b => a.1 < b.1)

namespace StringMap

variable {α β : Type}

def empty : StringMap α := ⟨[], .nil⟩

instance : Inhabited (StringMap α) := ⟨empty⟩

instance [DecidableEq α] : DecidableEq (StringMap α) := fun m n =>
  if h : m.entries = n.entries then isTrue (StringMap.ext h)
  else isFalse (fun e => h (e ▸ rfl))

/-- The entries with one more; an entry of the same key gives way to it. -/
def insertEntry (k : String) (v : α) : List (String × α) → List (String × α)
  | [] => [(k, v)]
  | e :: rest =>
    if k < e.1 then (k, v) :: e :: rest
    else if k = e.1 then (k, v) :: rest
    else e :: insertEntry k v rest

theorem mem_insertEntry {k : String} {v : α} {a : String × α} {es : List (String × α)}
    (h : a ∈ insertEntry k v es) : a = (k, v) ∨ a ∈ es := by
  induction es with
  | nil => simpa [insertEntry] using h
  | cons e rest ih =>
    simp only [insertEntry] at h
    split at h
    · simpa using h
    · split at h
      · rcases List.mem_cons.mp h with h | h
        · exact .inl h
        · exact .inr (List.mem_cons_of_mem _ h)
      · rcases List.mem_cons.mp h with h | h
        · exact .inr (h ▸ List.mem_cons_self)
        · exact (ih h).imp_right (List.mem_cons_of_mem _)

theorem lt_of_not_lt_of_ne {a b : String} (h : ¬ a < b) (hne : a ≠ b) : b < a := by
  rcases String.le_total a b with hab | hba
  · exact absurd (String.le_antisymm hab (String.not_lt.mp h)) hne
  · by_cases hlt : b < a
    · exact hlt
    · exact absurd (String.le_antisymm (String.not_lt.mp hlt) hba) hne

theorem pairwise_insertEntry (k : String) (v : α) {es : List (String × α)}
    (h : es.Pairwise (fun a b => a.1 < b.1)) :
    (insertEntry k v es).Pairwise (fun a b => a.1 < b.1) := by
  induction es with
  | nil => simp [insertEntry]
  | cons e rest ih =>
    obtain ⟨hhead, htail⟩ := List.pairwise_cons.mp h
    simp only [insertEntry]
    split
    · rename_i hlt
      refine List.pairwise_cons.mpr ⟨fun a ha => ?_, h⟩
      rcases List.mem_cons.mp ha with ha | ha
      · exact ha ▸ hlt
      · exact String.lt_trans hlt (hhead a ha)
    · rename_i hnot
      split
      · rename_i heq
        exact List.pairwise_cons.mpr ⟨fun a ha => heq ▸ hhead a ha, htail⟩
      · rename_i hne
        refine List.pairwise_cons.mpr ⟨fun a ha => ?_, ih htail⟩
        rcases mem_insertEntry ha with ha | ha
        · exact ha ▸ lt_of_not_lt_of_ne hnot hne
        · exact hhead a ha

def insert (m : StringMap α) (k : String) (v : α) : StringMap α :=
  ⟨insertEntry k v m.entries, pairwise_insertEntry k v m.ascending⟩

/-- The map of the given entries; of several with one key the last one counts. -/
def ofList (es : List (String × α)) : StringMap α :=
  es.foldl (fun m e => m.insert e.1 e.2) empty

def get? (m : StringMap α) (k : String) : Option α :=
  (m.entries.find? (fun e => e.1 = k)).map Prod.snd

def contains (m : StringMap α) (k : String) : Bool := m.entries.any (fun e => e.1 = k)

def isEmpty (m : StringMap α) : Bool := m.entries.isEmpty

def keys (m : StringMap α) : List String := m.entries.map Prod.fst

/-- The map with a key's value changed, from `none` where the key is absent. -/
def modify (m : StringMap α) (k : String) (f : Option α → α) : StringMap α :=
  m.insert k (f (m.get? k))

theorem find?_insertEntry (k : String) (v : α) (es : List (String × α)) (k' : String) :
    (insertEntry k v es).find? (fun e => e.1 = k') =
      if k = k' then some (k, v) else es.find? (fun e => e.1 = k') := by
  induction es with
  | nil => by_cases h : k = k' <;> simp [insertEntry, h]
  | cons e rest ih =>
    simp only [insertEntry]
    split
    · by_cases h : k = k' <;> simp [h]
    · split
      · rename_i heq
        by_cases h : k = k'
        · simp [h]
        · simp [h, show ¬ e.1 = k' from heq ▸ h]
      · rename_i hne
        by_cases he : e.1 = k'
        · simp [he, show ¬ k = k' from fun hk => hne (hk.trans he.symm)]
        · simp [he, ih]

theorem get?_insert (m : StringMap α) (k : String) (v : α) (k' : String) :
    (m.insert k v).get? k' = if k = k' then some v else m.get? k' := by
  simp only [get?, insert, find?_insertEntry]
  split <;> rfl

end StringMap

end AdmissionForecast
