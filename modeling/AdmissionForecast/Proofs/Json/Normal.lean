import AdmissionForecast.Proofs.Json.Fields
import Mathlib.Data.List.Induction

/-! # Looking up members of normal values

In a normal value a member is found where the last member of its name was written.
-/

namespace AdmissionForecast

namespace StringMap

variable {α β : Type}

theorem ofList_concat (es : List (String × α)) (e : String × α) :
    ofList (es ++ [e]) = (ofList es).insert e.1 e.2 := by
  rw [ofList, List.foldl_append]
  rfl

/-- Of several entries with one key the last one counts. -/
theorem get?_ofList (es : List (String × α)) (k : String) :
    (ofList es).get? k = (es.reverse.find? fun e => e.1 = k).map Prod.snd := by
  induction es using List.reverseRecOn with
  | nil => rfl
  | append_singleton es e ih =>
    rw [ofList_concat, get?_insert, ih, List.reverse_concat, List.find?_cons]
    by_cases h : e.1 = k <;> simp [h]

theorem get?_ofList_map (f : α → β) (es : List (String × α)) (k : String) :
    (ofList (es.map fun e => (e.1, f e.2))).get? k = ((ofList es).get? k).map f := by
  rw [get?_ofList, get?_ofList, ← List.map_reverse, List.find?_map]
  simp [Function.comp_def]

theorem value?_entries (m : StringMap Json) (name : String) :
    Fields.value? name m.entries = m.get? name :=
  Fields.value?_eq_find? name m.entries

end StringMap

namespace Json

variable {members : List (String × Json)}

/-- The last member of a name. -/
def member? (members : List (String × Json)) (name : String) : Option Json :=
  (StringMap.ofList members).get? name

theorem value?_normalMembers (members : List (String × Json)) (name : String) :
    Fields.value? name (StringMap.ofList (normalMembers members)).entries =
      (member? members name).map normal := by
  rw [StringMap.value?_entries, normalMembers_eq_map, StringMap.get?_ofList_map, member?]

theorem member?_append_cons {before after : List (String × Json)} {name : String} (j : Json)
    (h : ∀ m ∈ after, m.1 ≠ name) : member? (before ++ (name, j) :: after) name = some j := by
  have hnone : after.reverse.find? (fun m => m.1 = name) = none :=
    List.find?_eq_none.mpr fun m hm => by simpa using h m (List.mem_reverse.mp hm)
  rw [member?, StringMap.get?_ofList, List.reverse_append, List.reverse_cons, List.append_assoc,
    List.find?_append, hnone, List.singleton_append, Option.none_or,
    List.find?_cons_of_pos (by simp)]
  rfl

theorem list_normal_eq_ok_iff {α : Type} {r : Reader α} {items : List Json} {xs : List α} :
    Reader.list r (normal (.array items)) = .ok xs ↔
      List.Forall₂ (fun j x => r (normal j) = .ok x) items xs := by
  show (normalItems items).mapM r = _ ↔ _
  rw [normalItems_eq_map, mapM_eq_ok_iff, List.forall₂_map_left_iff]

theorem areReadable_iff (items : List Json) :
    areReadable items = true ↔ ∀ j ∈ items, j.isReadable = true := by
  induction items with
  | nil => simp [areReadable]
  | cons j items ih => simp [areReadable, ih]

theorem haveReadable_iff (members : List (String × Json)) :
    haveReadable members = true ↔ ∀ m ∈ members, m.2.isReadable = true := by
  induction members with
  | nil => simp [haveReadable]
  | cons m members ih => simp [haveReadable, ih]

end Json

end AdmissionForecast
