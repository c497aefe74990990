import AdmissionForecast.Proofs.Json.Records
import AdmissionForecast.Proofs.Keys

/-! # Edits of a document

The members of any object may come in another order, and an object that is read as a record may
have members under names that the record does not know. Which objects are read as records is told
by the shape of a document. Sorting the members of a document turns an edit into an edit, or hides
it.
-/

namespace AdmissionForecast.Json

/-- What the objects in a document are read as. -/
inductive Shape where
  /-- Nothing here is read as a record. -/
  | value
  | list (item : Shape)
  /-- A record with the names that it knows in order, and the shapes of their values. -/
  | record (names : List String) (part : String → Shape)
  /-- A record that names its kind. -/
  | tagged (record : String → Shape)

namespace Shape

/-- The shape of an item, as of a list or of a record that is written as an array. -/
def item : Shape → Nat → Shape
  | list s, _ => s
  | record names part, i => names[i]?.elim value part
  | _, _ => value

def member : Shape → String → Shape
  | record _ part, name => part name
  | _, _ => value

/-- A record that names no kind. -/
def untagged : Shape := record ["kind"] fun _ => value

/-- The shape of a record by the kind that it names, once. -/
def ofKind (record : String → Shape) : Json → Shape
  | .object members =>
    if Fields.repeats ["kind"] members then value
    else match Fields.value? "kind" members with
      | some (.string kind) => record kind
      | _ => untagged
  | .array (.string kind :: _) => record kind
  | _ => value

theorem ofKind_array {record : String → Shape} {items : List Json}
    (h : ∀ kind rest, items ≠ .string kind :: rest) : ofKind record (.array items) = value := by
  cases items with
  | nil => rfl
  | cons j rest =>
    cases j with
    | string kind => exact absurd rfl (h kind rest)
    | _ => rfl

end Shape

/-- One edit of a document: the members of an object in another order, a member that is put into
a record or given another value under a name that the record does not know, or an edit further
down. The new values have to fit. -/
inductive Edit (fits : Json → Prop) : Shape → Json → Json → Prop
  | permute {s : Shape} {members members' : List (String × Json)}
      (hn : (members.map Prod.fst).Nodup) (h : members.Perm members') :
      Edit fits s (.object members) (.object members')
  | insert {names : List String} {part : String → Shape} {before after : List (String × Json)}
      {name : String} {j : Json} (hname : name ∉ names) (hj : fits j) :
      Edit fits (.record names part) (.object (before ++ after))
        (.object (before ++ (name, j) :: after))
  | change {names : List String} {part : String → Shape} {before after : List (String × Json)}
      {name : String} {j j' : Json} (hname : name ∉ names) (hj : fits j) (hj' : fits j') :
      Edit fits (.record names part) (.object (before ++ (name, j) :: after))
        (.object (before ++ (name, j') :: after))
  | item {s : Shape} {before after : List Json} {j j' : Json}
      (h : Edit fits (s.item before.length) j j') :
      Edit fits s (.array (before ++ j :: after)) (.array (before ++ j' :: after))
  | member {s : Shape} {before after : List (String × Json)} {name : String} {j j' : Json}
      (h : Edit fits (s.member name) j j') :
      Edit fits s (.object (before ++ (name, j) :: after))
        (.object (before ++ (name, j') :: after))
  | tagged {record : String → Shape} {j j' : Json} (h : Edit fits (.ofKind record j) j j') :
      Edit fits (.tagged record) j j'

namespace Edit

variable {fits : Json → Prop} {s : Shape} {j j' : Json} {record : String → Shape}

/-- An edit of values is one of documents of any shape, and puts nothing in. -/
theorem of_value (h : Edit fits .value j j') (fits' : Json → Prop) (s : Shape) :
    Edit fits' s j j' := by
  generalize hv : Shape.value = v at h
  induction h generalizing s with
  | permute hn h => exact .permute hn h
  | insert | change | tagged => cases hv
  | item _ ih => exact .item (ih _ (by rw [← hv]; rfl))
  | member _ ih => exact .member (ih _ (by rw [← hv]; rfl))

theorem of_tagged (h : Edit fits (.tagged record) j j') :
    Edit fits (.ofKind record j) j j' := by
  cases h with
  | permute hn h => exact .permute hn h
  | item h => exact .item (h.of_value _ _)
  | member h => exact .member (h.of_value _ _)
  | tagged h => exact h

theorem of_cons {name : String} {names : List String} {part : String → Shape}
    {members : List (String × Json)}
    (h : Edit fits (.record (name :: names) part) (.object members) j') :
    Edit fits (.record names part) (.object members) j' := by
  cases h with
  | permute hn h => exact .permute hn h
  | insert hname hfits => exact .insert (List.not_mem_of_not_mem_cons hname) hfits
  | change hname hfits hfits' =>
    exact .change (List.not_mem_of_not_mem_cons hname) hfits hfits'
  | member h => exact .member h

theorem exists_item {names : List String} {part : String → Shape} {items : List Json}
    (h : Edit fits (.record names part) (.array items) j') :
    ∃ before after i i', items = before ++ i :: after ∧ j' = .array (before ++ i' :: after) ∧
      Edit fits (names[before.length]?.elim .value part) i i' := by
  cases h with
  | item h => exact ⟨_, _, _, _, rfl, rfl, h⟩

/-- Without the members of one name there is the same edit, or none at all. -/
theorem erase {name : String} {names : List String} {part : String → Shape}
    {members members' : List (String × Json)}
    (h : Edit fits (.record (name :: names) part) (.object members) (.object members')) :
    (members.filter fun m => m.1 ≠ name) = (members'.filter fun m => m.1 ≠ name) ∨
      Edit fits (.record names part) (.object (members.filter fun m => m.1 ≠ name))
        (.object (members'.filter fun m => m.1 ≠ name)) := by
  have hsplit (before after : List (String × Json)) {other : String} (hne : other ≠ name)
      (j : Json) : ((before ++ (other, j) :: after).filter fun m => m.1 ≠ name) =
        (before.filter fun m => m.1 ≠ name) ++ (other, j) :: after.filter fun m => m.1 ≠ name := by
    simp [hne]
  cases h with
  | permute hn h =>
    exact .inr (.permute ((List.filter_sublist.map Prod.fst).nodup hn) (h.filter _))
  | insert hname hfits =>
    rw [hsplit _ _ (List.ne_of_not_mem_cons hname), List.filter_append]
    exact .inr (.insert (List.not_mem_of_not_mem_cons hname) hfits)
  | change hname hfits hfits' =>
    have hne := List.ne_of_not_mem_cons hname
    rw [hsplit _ _ hne, hsplit _ _ hne]
    exact .inr (.change (List.not_mem_of_not_mem_cons hname) hfits hfits')
  | @member _ before after other _ _ h =>
    by_cases hne : other = name
    · exact .inl (by simp [hne])
    · rw [hsplit _ _ hne, hsplit _ _ hne]
      exact .inr (.member h)

theorem not_isLeaf (h : Edit fits s j j') : ¬ j.IsLeaf ∧ ¬ j'.IsLeaf := by
  induction h with
  | tagged _ ih => exact ih
  | item => exact ⟨fun hl => hl.1 _ rfl, fun hl => hl.1 _ rfl⟩
  | _ => exact ⟨fun hl => hl.2 _ rfl, fun hl => hl.2 _ rfl⟩

theorem isReadable_iff (h : Edit (fun j => j.isReadable = true) s j j') :
    j.isReadable = true ↔ j'.isReadable = true := by
  induction h with
  | permute _ h =>
    rw [isReadable, isReadable, haveReadable_iff, haveReadable_iff]
    simp only [h.mem_iff]
  | insert _ hj =>
    simp only [isReadable, haveReadable_iff, List.forall_mem_append, List.forall_mem_cons, hj,
      true_and]
  | change _ hj hj' =>
    simp only [isReadable, haveReadable_iff, List.forall_mem_append, List.forall_mem_cons, hj, hj']
  | item _ ih =>
    simp only [isReadable, areReadable_iff, List.forall_mem_append, List.forall_mem_cons, ih]
  | member _ ih =>
    simp only [isReadable, haveReadable_iff, List.forall_mem_append, List.forall_mem_cons, ih]
  | tagged _ ih => exact ih

end Edit

variable {s : Shape} {j j' : Json} {members members' before after : List (String × Json)}
  {name : String} {record : String → Shape} {fits : Json → Prop}

theorem normal_perm (hn : (members.map Prod.fst).Nodup) (h : members.Perm members') :
    normal (.object members) = normal (.object members') := by
  rw [normal_object, normal_object, StringMap.ofList_perm ?_ (h.map _)]
  simpa [Function.comp_def] using hn

/-- The sorted members with a further one: it goes to one place, whatever its value, unless a
later member has its name. -/
theorem normal_append_cons (before after : List (String × Json)) (name : String) :
    (∀ j, normal (.object (before ++ (name, j) :: after)) = normal (.object (before ++ after))) ∨
    ∃ before' after', (∀ j, normal (.object (before ++ (name, j) :: after)) =
        .object (before' ++ (name, normal j) :: after')) ∧
      (normal (.object (before ++ after)) = .object (before' ++ after') ∨
        ∃ j, normal (.object (before ++ after)) = .object (before' ++ (name, j) :: after')) := by
  have hkeys : (after.map fun m => (m.1, m.2.normal)).map Prod.fst = after.map Prod.fst := by
    simp [Function.comp_def]
  by_cases hk : name ∈ after.map Prod.fst
  · refine .inl fun j => ?_
    rw [normal_object, List.map_append, List.map_cons, StringMap.ofList_append_cons,
      if_pos (hkeys ▸ hk), normal_object, List.map_append]
  · obtain ⟨before', after', hinsert, hes⟩ := StringMap.insertEntry_split name
      (StringMap.ofList ((before ++ after).map fun m => (m.1, m.2.normal))).entries
    refine .inr ⟨before', after', fun j => ?_, ?_⟩
    · rw [normal_object, List.map_append, List.map_cons, StringMap.ofList_append_cons,
        if_neg (hkeys ▸ hk), ← List.map_append, ← hinsert, StringMap.insert]
    · rw [normal_object]
      exact hes.imp (congrArg object) (Exists.imp fun _ => congrArg object)

theorem length_filter_le_one (h : Fields.repeats [name] members = false) :
    (members.filter fun m => m.1 = name).length ≤ 1 := by
  simpa [Fields.repeats, List.countP_eq_length_filter] using h

theorem value?_eq_member? (h : Fields.repeats [name] members = false) :
    Fields.value? name members = member? members name := by
  have hlength := length_filter_le_one h
  rw [member?, StringMap.get?_ofList, Fields.value?_eq_find?, ← List.head?_filter,
    ← List.head?_filter, List.filter_reverse, List.head?_reverse]
  generalize (members.filter fun m => m.1 = name) = named at hlength
  rcases named with _ | ⟨m, _ | ⟨m', named⟩⟩
  · rfl
  · rfl
  · exact absurd hlength (by simp)

/-- Sorting keeps the shape of an item, unless the item names its kind twice. -/
theorem ofKind_normal (record : String → Shape) (j : Json) :
    Shape.ofKind record j = .value ∨ Shape.ofKind record j.normal = Shape.ofKind record j := by
  cases j with
  | object members =>
    cases hr : Fields.repeats ["kind"] members with
    | true => exact .inl (by simp [Shape.ofKind, hr])
    | false =>
      have hkind := value?_normalMembers members "kind"
      rw [← value?_eq_member? hr] at hkind
      have hsorted : Fields.repeats ["kind"] (StringMap.ofList (normalMembers members)).entries =
          false := Fields.repeats_of_nodup (StringMap.nodup_keys _) _
      simp only [Shape.ofKind, hr, normal, hsorted, hkind]
      cases hv : Fields.value? "kind" members with
      | none => simp
      | some j => cases j <;> simp [normal]
  | array items =>
    cases items with
    | nil => exact .inl rfl
    | cons j rest =>
      cases j with
      | string kind => exact .inr rfl
      | _ => exact .inl rfl
  | _ => exact .inl rfl

/-- Between the sorted documents there is an edit as well, or none at all. -/
theorem Edit.normal (h : Edit fits s j j') :
    j.normal = j'.normal ∨ Edit (fun _ => True) s j.normal j'.normal := by
  induction h with
  | permute hn h => exact .inl (normal_perm hn h)
  | @insert names part before after name j hname hj =>
    rcases normal_append_cons before after name with heq | ⟨before', after', hmid, hrest⟩
    · exact .inl (heq j).symm
    · rw [hmid]
      rcases hrest with hrest | ⟨j', hrest⟩
      · exact .inr (hrest ▸ .insert hname trivial)
      · exact .inr (hrest ▸ .change hname trivial trivial)
  | @change names part before after name j j' hname =>
    rcases normal_append_cons before after name with heq | ⟨before', after', hmid, -⟩
    · exact .inl ((heq j).trans (heq j').symm)
    · rw [hmid, hmid]
      exact .inr (.change hname trivial trivial)
  | @item s before after j j' _ ih =>
    simp only [normal_array, List.map_append, List.map_cons]
    rcases ih with heq | h
    · exact .inl (by rw [heq])
    · exact .inr (.item (by rwa [List.length_map]))
  | @member s before after name j j' _ ih =>
    rcases normal_append_cons before after name with heq | ⟨before', after', hmid, -⟩
    · exact .inl ((heq j).trans (heq j').symm)
    · rw [hmid, hmid]
      rcases ih with heq | h
      · exact .inl (by rw [heq])
      · exact .inr (.member h)
  | @tagged record j j' _ ih =>
    refine ih.imp_right fun h => .tagged ?_
    rcases ofKind_normal record j with hv | hk
    · exact (hv ▸ h).of_value _ _
    · exact hk ▸ h

theorem Edit.normal_eq (h : Edit fits .value j j') : j.normal = j'.normal := by
  generalize hv : Shape.value = v at h
  induction h with
  | permute hn h => exact normal_perm hn h
  | insert | change | tagged => cases hv
  | item _ ih =>
    simp only [normal_array, List.map_append, List.map_cons, ih (by rw [← hv]; rfl)]
  | @member s before after name j j' _ ih =>
    have heq := ih (by rw [← hv]; rfl)
    rcases normal_append_cons before after name with h | ⟨before', after', hmid, -⟩
    · exact (h j).trans (h j').symm
    · rw [hmid, hmid, heq]

end AdmissionForecast.Json
