import AdmissionForecast.Config.Basic
import AdmissionForecast.Proofs.Cluster.Layouts
import AdmissionForecast.Proofs.Pod.Shapes

/-! # What readers overlook

Namespaces, pods, configurations and snapshots are read by the names that their records know. So
other members make no difference, wherever a record is, and neither does the order of any members.
A snapshot is read from its sorted document, which keeps all this as long as the document can be
read as a value at all.
-/

namespace AdmissionForecast

open Fields

open Json (Edit Shape)

namespace Config

def shape : Shape := .record fields.names fun _ => .value

theorem overlooks_reader : reader.Overlooks shape :=
  Overlooks.reader (.seq (.seq (.seq (.seq (.seq (.map (.fieldWith Reader.overlooks_string) _)
    (.fieldWith (Reader.overlooks_intIn _ _).map_result)) (.fieldWith Reader.overlooks_string))
    (.fieldWith Reader.overlooks_bool)) (.fieldWith Reader.overlooks_string))
    (.fieldWith Reader.overlooks_string.optional))

end Config

namespace Snapshot

variable {fits : Json → Prop} {j j' : Json} {members : List (String × Json)} {items : List Json}
  {kind : String} {it : Item}

/-- The names that are known in an item besides its kind. -/
def itemNames : String → List String
  | "Namespace" => Namespace.fields.names
  | "Pod" => Pod.fields.names
  | _ => []

def itemPart : String → String → Shape
  | "Namespace" => Namespace.part
  | "Pod" => Pod.part
  | _ => fun _ => .value

def itemShape (kind : String) : Shape := .record ("kind" :: itemNames kind) (itemPart kind)

theorem overlooks_readItemOfKind (kind : String) :
    Reader.Overlooks (.record (itemNames kind) (itemPart kind)) (readItemOfKind kind) := by
  by_cases hns : kind = "Namespace"
  · subst hns
    exact Namespace.overlooks_reader.map_result
  · by_cases hpod : kind = "Pod"
    · subst hpod
      exact Pod.overlooks_reader.map_result
    · intro fits j j' he it
      cases he with
      | @item _ before => cases before <;> simp [readItemOfKind, hns, hpod]
      | _ => simp [readItemOfKind, hns, hpod]

theorem edit_itemShape (hk : value? "kind" members = some (.string kind))
    (h : Edit fits (.ofKind itemShape (.object members)) (.object members) j') :
    Edit fits (itemShape kind) (.object members) j' := by
  simp only [Shape.ofKind, hk] at h
  split at h
  · exact h.of_value _ _
  · exact h

theorem edit_untagged (hk : ∀ kind, value? "kind" members ≠ some (.string kind))
    (h : Edit fits (.ofKind itemShape (.object members)) (.object members) j') :
    Edit fits .untagged (.object members) j' := by
  simp only [Shape.ofKind] at h
  split at h
  · exact h.of_value _ _
  · exact h

theorem itemReader_object_ne_ok (h : ∀ kind, value? "kind" members ≠ some (.string kind)) :
    itemReader (.object members) ≠ .ok it := by
  unfold value? at h
  cases hm : member? "kind" members with
  | none => simp [itemReader, hm]
  | some m =>
    obtain ⟨i, j⟩ := m
    cases j with
    | string kind => exact absurd (by rw [hm]; rfl) (h kind)
    | _ => simp [itemReader, hm]

theorem itemReader_array_ne_ok (h : ∀ kind rest, items ≠ .string kind :: rest) :
    itemReader (.array items) ≠ .ok it := by
  cases items with
  | nil => exact nofun
  | cons j rest =>
    cases j with
    | string kind => exact absurd rfl (h kind rest)
    | _ => exact nofun

theorem isLeaf_string (s : String) : (Json.string s).IsLeaf := ⟨nofun, nofun⟩

theorem eq_string_iff_of_within {s : Shape} {o o' : Option Json} (h : Within fits s o o') :
    o = some (.string kind) ↔ o' = some (.string kind) := by
  rcases h with rfl | ⟨j, j', rfl, rfl, he⟩
  · exact Iff.rfl
  · refine iff_of_false ?_ ?_ <;> rintro ⟨⟩
    · exact he.not_isLeaf.1 (isLeaf_string kind)
    · exact he.not_isLeaf.2 (isLeaf_string kind)

theorem itemReader_object_iff
    (h : Edit fits (.ofKind itemShape (.object members)) (.object members) j') :
    itemReader (.object members) = .ok it ↔ itemReader j' = .ok it := by
  by_cases hk : ∃ kind, value? "kind" members = some (.string kind)
  · obtain ⟨kind, hk⟩ := hk
    have hedit := edit_itemShape hk h
    obtain ⟨members', rfl, -, hw⟩ := exists_within hedit
    have hk' := (eq_string_iff_of_within (hw "kind" List.mem_cons_self)).mp hk
    rw [itemReader_object hk, itemReader_object hk']
    rcases hedit.erase with heq | hrest
    · rw [heq]
    · exact overlooks_readItemOfKind kind hrest it
  · replace hk := not_exists.mp hk
    obtain ⟨members', rfl, -, hw⟩ := exists_within (edit_untagged hk h)
    have hk' : ∀ kind, value? "kind" members' ≠ some (.string kind) := fun kind hc =>
      hk kind ((eq_string_iff_of_within (hw "kind" List.mem_cons_self)).mpr hc)
    exact iff_of_false (itemReader_object_ne_ok hk) (itemReader_object_ne_ok hk')

/-- In an array the kind comes first, and is a text before and after an edit. -/
theorem itemReader_array_iff
    (h : Edit fits (.ofKind itemShape (.array items)) (.array items) j') :
    itemReader (.array items) = .ok it ↔ itemReader j' = .ok it := by
  by_cases hk : ∃ kind rest, items = .string kind :: rest
  · obtain ⟨kind, rest, rfl⟩ := hk
    change Edit fits (itemShape kind) _ _ at h
    obtain ⟨_ | ⟨first, before⟩, after, i, i', hitems, rfl, hi⟩ := h.exists_item
    · obtain ⟨rfl, -⟩ := List.cons.inj hitems
      exact absurd (isLeaf_string kind) hi.not_isLeaf.1
    · obtain ⟨rfl, rfl⟩ := List.cons.inj hitems
      exact overlooks_readItemOfKind kind (.item hi) it
  · replace hk : ∀ kind rest, items ≠ .string kind :: rest := fun kind rest hc =>
      hk ⟨kind, rest, hc⟩
    rw [Shape.ofKind_array hk] at h
    obtain ⟨before, after, i, i', rfl, rfl, hi⟩ := (h.of_value fits .untagged).exists_item
    refine iff_of_false (itemReader_array_ne_ok hk) (itemReader_array_ne_ok fun kind rest hc => ?_)
    cases before with
    | nil =>
      obtain ⟨rfl, -⟩ := List.cons.inj hc
      exact hi.not_isLeaf.2 (isLeaf_string kind)
    | cons first before =>
      obtain ⟨rfl, -⟩ := List.cons.inj hc
      exact hk kind _ rfl

theorem overlooks_itemReader : itemReader.Overlooks (.tagged itemShape) := by
  intro fits j j' he it
  cases j with
  | object members => exact itemReader_object_iff he.of_tagged
  | array items => exact itemReader_array_iff he.of_tagged
  | _ => exact absurd ⟨nofun, nofun⟩ he.not_isLeaf.1

def part : String → Shape
  | "items" => .list (.tagged itemShape)
  | "namespaces" => .list Namespace.shape
  | "pods" => .list Pod.shape
  | "dry_run_failures" => .list .value
  | _ => .value

/-- The shape of a document by its layout. -/
def shape : Json → Shape
  | .object members =>
    if (value? "items" members).isSome then .record ["items"] part
    else .record ("items" :: fields.names) part
  | _ => .record fields.names part

theorem overlooks_fields : fields.Overlooks part :=
  .seq (.seq (.map (.fieldWith Namespace.overlooks_reader.list) _)
    (.fieldWith Pod.overlooks_reader.list))
    (.fieldWith Reader.overlooks_string.list.map_result)

theorem reader_object_of_none (h : value? "items" members = none) :
    reader (.object members) = fields.reader (.object members) := by
  have hm : member? "items" members = none := Option.map_eq_none_iff.mp h
  simp [reader, hm]

theorem reader_iff_of_edit {s : Snapshot} (h : Edit fits (shape j) j j') :
    reader j = .ok s ↔ reader j' = .ok s := by
  cases j with
  | object members =>
    cases hv : value? "items" members with
    | some items =>
      simp only [shape, hv, Option.isSome_some, if_true] at h
      obtain ⟨members', rfl, -, hw⟩ := exists_within h
      rw [reader_object hv]
      rcases hw "items" List.mem_cons_self with heq | ⟨items', items'', hitems, hitems', he⟩
      · rw [reader_object (heq ▸ hv)]
      · obtain rfl := Option.some.inj (hv.symm.trans hitems)
        rw [reader_object hitems']
        exact overlooks_itemReader.list.map_result he s
    | none =>
      simp only [shape, hv, Option.isSome_none, Bool.false_eq_true, if_false] at h
      obtain ⟨members', rfl, -, hw⟩ := exists_within h
      have hv' : value? "items" members' = none := by
        rcases hw "items" List.mem_cons_self with heq | ⟨items', -, hitems, -⟩
        · exact heq ▸ hv
        · exact absurd (hv.symm.trans hitems) nofun
      rw [reader_object_of_none hv, reader_object_of_none hv']
      exact overlooks_fields.reader h.of_cons s
  | array items =>
    have he := overlooks_fields.reader h s
    obtain ⟨before, after, i, i', rfl, rfl, -⟩ := h.exists_item
    exact he
  | _ => exact absurd ⟨nofun, nofun⟩ h.not_isLeaf.1

theorem shape_normal (j : Json) : shape j.normal = shape j := by
  cases j with
  | object members =>
    have hv : (value? "items" (StringMap.ofList (Json.normalMembers members)).entries).isSome =
        (value? "items" members).isSome := by
      rw [Json.value?_normalMembers, Option.isSome_map, Bool.eq_iff_iff, Json.member?,
        ← StringMap.mem_keys_iff, StringMap.mem_keys_ofList_iff, value?_eq_find?]
      simp [List.find?_isSome]
    simp only [Json.normal, shape, hv]
  | array items => rfl
  | _ => rfl

end Snapshot

end AdmissionForecast
