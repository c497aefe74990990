import AdmissionForecast.Condition
import AdmissionForecast.Proofs.Sorting

/-! # Rendered conditions

Each category and verdict has one condition among the eight, found by its type. What it says
depends on the names in its place and not on the order in which they were found.
-/

namespace AdmissionForecast

namespace Findings

variable {f g : Findings} {type : String} {v : Verdict}

@[simp] theorem type_condition (type : String) (v : Verdict) (names : List String) :
    (condition type v names).type = type := by
  unfold condition
  split <;> rfl

theorem condition_congr {names names' : List String} (h : names.Perm names') :
    condition type v names = condition type v names' := by
  have hs : names.mergeSort (fun a b => decide (a ≤ b)) =
      names'.mergeSort fun a b => decide (a ≤ b) :=
    sortedBy_congr h fun a _ b _ hab => hab
  rw [condition, condition, hs]

theorem condition_of_sorted {names sorted : List String} (h : sorted.Perm names)
    (hs : sorted.Pairwise (· ≤ ·)) :
    condition type v names = if sorted = [] then ⟨type, .false, expectedReason, none⟩
      else ⟨type, .true, v.reason, some (v.message sorted)⟩ := by
  have hn : names.mergeSort (fun a b => decide (a ≤ b)) = sorted := sortedBy_eq_of_perm h hs
  rw [condition, hn]
  cases sorted <;> rfl

theorem render_congr (h : ∀ c v, (f.names c v).Perm (g.names c v)) : f.render = g.render :=
  List.map_congr_left fun (c, v) _ => condition_congr (h c v)

theorem map_type_render (f : Findings) :
    f.render.map (·.type) = table.map fun x => conditionType x.1 x.2 := by
  rw [render, List.map_map]
  exact List.map_congr_left fun _ _ => type_condition ..

theorem nodup_types_render (f : Findings) : (f.render.map (·.type)).Nodup := by
  rw [map_type_render]
  decide

theorem find?_table (c : Category) (v : Verdict) :
    table.find? (fun x => conditionType x.1 x.2 = conditionType c v) = some (c, v) := by
  cases c <;> cases v <;> decide

theorem get?_render (f : Findings) (c : Category) (v : Verdict) :
    ConditionSet.get? f.render (conditionType c v) =
      some (condition (conditionType c v) v (f.names c v)) := by
  have hc : (fun c' : Condition => decide (c'.type = conditionType c v)) ∘
      (fun x : Category × Verdict =>
        condition (conditionType x.1 x.2) x.2 (f.names x.1 x.2)) =
      fun x => decide (conditionType x.1 x.2 = conditionType c v) := by
    funext x
    simp
  rw [ConditionSet.get?, render, List.find?_map, hc, find?_table]
  rfl

end Findings

end AdmissionForecast
