import AdmissionForecast.Proofs.Cluster.Shapes
import Mathlib.Logic.Relation

/-! # Edited texts

What is read from a text does not depend on members that no record knows, nor on the order of
members. A snapshot is read by way of a value of the whole document, so there the members that are
put in have to be readable values themselves.
-/

namespace AdmissionForecast

open Json (Edit Shape Spells)

variable {α : Type} {fits : Json → Prop} {shape : Json → Shape} {j j' : Json}

/-- One document comes from the other by edits. The shape may depend on the document. -/
def Json.Edits (fits : Json → Prop) (shape : Json → Shape) : Json → Json → Prop :=
  Relation.ReflTransGen fun j j' => Edit fits (shape j) j j'

/-- The texts of documents of which one comes from the other by edits. -/
def EditedTexts (fits : Json → Prop) (shape : Json → Shape) (text text' : String) : Prop :=
  ∃ j j', Json.parse? text = some j ∧ Json.parse? text' = some j' ∧ Json.Edits fits shape j j'

/-- Edited texts are read alike: as one value, or not at all. -/
def ReadsAlike (fits : Json → Prop) (shape : Json → Shape) (read : String → Except ReadError α) :
    Prop :=
  ∀ text text', EditedTexts fits shape text text' → ∀ a, read text = .ok a ↔ read text' = .ok a

theorem iff_of_edits (read : Json → Except ReadError α)
    (h : ∀ ⦃j j'⦄, Edit fits (shape j) j j' → ∀ a, read j = .ok a ↔ read j' = .ok a)
    (he : Json.Edits fits shape j j') (a : α) : read j = .ok a ↔ read j' = .ok a := by
  induction he with
  | refl => exact Iff.rfl
  | tail _ he ih => exact ih.trans (h he a)

theorem readsAlike_readText {s : Shape} {r : Reader α} (h : r.Overlooks s) :
    ReadsAlike fits (fun _ => s) (Json.readText r) := by
  rintro text text' ⟨j, j', hj, hj', he⟩ a
  simp only [Json.readText, hj, hj']
  exact iff_of_edits r (fun _ _ he => h he) he a

theorem readsAlike_snapshot :
    ReadsAlike (fun j => j.isReadable = true) Snapshot.shape Snapshot.parse := by
  rintro text text' ⟨j, j', hj, hj', he⟩ s
  simp only [Snapshot.parse, Json.readWhole, hj, hj']
  refine iff_of_edits
    (fun j => if j.isReadable then Snapshot.reader j.normal else .error .malformed)
    (fun j j' he s => ?_) he s
  simp only [he.isReadable_iff]
  split
  · rcases he.normal with heq | hnormal
    · rw [heq]
    · exact Snapshot.reader_iff_of_edit ((Snapshot.shape_normal j).symm ▸ hnormal)
  · exact Iff.rfl

/-- Readings of texts overlook the order of members, and members that no record knows. -/
theorem readings_overlook_edits :
    ReadsAlike (fun _ => True) (fun _ => Namespace.shape) (Json.readText Namespace.reader) ∧
    ReadsAlike (fun _ => True) (fun _ => Pod.shape) (Json.readText Pod.reader) ∧
    ReadsAlike (fun _ => True) (fun _ => Config.shape) Config.parse ∧
    ReadsAlike (fun j => j.isReadable = true) Snapshot.shape Snapshot.parse ∧
    ReadsAlike (fun _ => True) (fun _ => .value) (Json.readText Volume.reader) ∧
    ReadsAlike (fun _ => True) (fun _ => .value)
      (Json.readText fun j => (Volume.reader j).map Volume.sourceKind?) :=
  ⟨readsAlike_readText Namespace.overlooks_reader, readsAlike_readText Pod.overlooks_reader,
    readsAlike_readText Config.overlooks_reader, readsAlike_snapshot,
    readsAlike_readText Volume.overlooks_reader,
    readsAlike_readText Volume.overlooks_reader.map_result⟩

/-- A list of one pod: its volume is written the other way round, and the pod and the list get
members that no record knows. -/
theorem readings_overlook_edits_of_list :
    let volume : List (String × Json) := [("name", .string "data"), ("hostPath", .object [])]
    let pod (volume more : List (String × Json)) : Json := .object
      ([("kind", .string "Pod"), ("metadata", .object [("name", .string "web")])] ++ more ++
        [("spec", .object [("volumes", .array [.object volume])])])
    let status : List (String × Json) := [("status", .string "Running")]
    let text := (Json.object [("items", .array [pod volume []])]).pretty
    let text' := (Json.object
      [("items", .array [pod volume.reverse status]), ("apiVersion", .string "v1")]).pretty
    (Snapshot.parse text).isOk = true ∧
      ∀ s, Snapshot.parse text = .ok s ↔ Snapshot.parse text' = .ok s := by
  intro volume pod status text text'
  let list (item : Json) : List (String × Json) := [("items", .array [item])]
  have htext : Json.parse? text = some (.object (list (pod volume []))) :=
    Json.parse?_pretty (n := 9) (by simp [Json.IsTextual, pod, volume]) (by decide)
  have htext' : Json.parse? text' =
      some (.object (list (pod volume.reverse status) ++ [("apiVersion", .string "v1")])) :=
    Json.parse?_pretty (n := 9) (by simp [Json.IsTextual, pod, volume, status]) (by decide)
  let readable (j : Json) : Prop := j.isReadable = true
  have hlist {item item' : Json} (h : Edit readable (.ofKind Snapshot.itemShape item) item item') :
      Edit readable (Snapshot.shape (.object (list item))) (.object (list item))
        (.object (list item')) :=
    @Edit.member _ _ [] [] "items" _ _ <| @Edit.item _ _ [] [] _ _ <| .tagged h
  have hvolume : Edit readable (Snapshot.itemShape "Pod") (pod volume []) (pod volume.reverse []) :=
    @Edit.member _ _ [_, _] [] "spec" _ _ <| @Edit.member _ _ [] [] "volumes" _ _ <|
      @Edit.item _ _ [] [] _ _ <| .permute (by decide) (List.reverse_perm _).symm
  have hstatus : Edit readable (Snapshot.itemShape "Pod") (pod volume.reverse [])
      (pod volume.reverse status) :=
    @Edit.insert _ _ _ [_, _] [_] "status" _ (by decide) rfl
  have hversion : Edit readable (Snapshot.shape (.object (list (pod volume.reverse status))))
      (.object (list (pod volume.reverse status)))
      (.object (list (pod volume.reverse status) ++ [("apiVersion", .string "v1")])) :=
    @Edit.insert _ _ _ [_] [] "apiVersion" _ (by decide) rfl
  refine ⟨?_, readings_overlook_edits.2.2.2.1 text text' ⟨_, _, htext, htext',
    .tail (.tail (.single (hlist hvolume)) (hlist hstatus)) hversion⟩⟩
  rw [Snapshot.parse, Json.readWhole, htext]
  decide +kernel

/-- A string that is no text has no place in a snapshot, although no record knows the member that it
is put under; and it is no name of a member, even of a record that is read directly. -/
theorem readings_notice_surrogates :
    let text := "\x7b\"namespaces\":[]\x7d"
    let text' := "\x7b\"namespaces\": [], \"note\": \"\\ud800\"\x7d"
    let named := "\x7b\"metadata\":\x7b\"name\":\"team-a\"\x7d\x7d"
    let named' := "\x7b\"metadata\":\x7b\"name\":\"team-a\"\x7d,\"\\ud800\":0\x7d"
    (EditedTexts (fun _ => True) Snapshot.shape text text' ∧
      (Snapshot.parse text).isOk = true ∧ (Snapshot.parse text').isOk = false) ∧
    (Json.readText Namespace.reader named).isOk = true ∧
      (Json.readText Namespace.reader named').isOk = false := by
  intro text text' named named'
  have htext : Json.parse? text = some (.object [("namespaces", .array [])]) := by
    dsimp only [text]
    rfl
  have htext' : Json.parse? text' =
      some (.object [("namespaces", .array []), ("note", .unreadable)]) := by
    have hspells := (((Spells.openObject.append (.printString "namespaces")).append .colon).append
      (.append .openArray .closeArray)).append ((((Spells.comma.append .blank).append
      (.printString "note")).append .colon).append (.append .surrogate .closeObject))
    have hlist : text'.toList = ['\x7b'] ++ Json.printString "namespaces" ++ [':', ' '] ++
        (['['] ++ [']']) ++ ([','] ++ [' '] ++ Json.printString "note" ++ [':', ' '] ++
          ("\"\\ud800\"".toList ++ ['\x7d'])) := by decide +kernel
    rw [Json.parse?, hlist, hspells.tokens?]
    rfl
  have hedit : Edit (fun _ => True) (Snapshot.shape (.object [("namespaces", .array [])]))
      (.object [("namespaces", .array [])])
      (.object [("namespaces", .array []), ("note", .unreadable)]) :=
    @Edit.insert _ _ _ [_] [] "note" _ (by decide) trivial
  exact ⟨⟨⟨_, _, htext, htext', .single hedit⟩, by decide +kernel, by decide +kernel⟩,
    by decide +kernel, by decide +kernel⟩

end AdmissionForecast
