import AdmissionForecast.Check.Standard
import Mathlib.Tactic.Common

/-! # Forbidden specs

A level forbids a spec if one of the checks that it enforces finds fault with it. The list of
reasons and the outcomes of the single checks both tell so.
-/

namespace AdmissionForecast.Check

variable {level : Level} {spec : PodSpec}

/-- Some check that the level enforces finds fault with the spec. -/
def Forbids (level : Level) (spec : PodSpec) : Prop := ∃ c ∈ enforcedAt level, c.details spec ≠ []

instance (level : Level) (spec : PodSpec) : Decidable (Forbids level spec) :=
  inferInstanceAs (Decidable (∃ c ∈ enforcedAt level, c.details spec ≠ []))

theorem isAllowed_evaluate_iff (c : Check) (spec : PodSpec) :
    (c.evaluate spec).isAllowed = true ↔ c.details spec = [] := by
  unfold evaluate
  split <;> simp_all [CheckResult.isAllowed]

theorem any_evaluateAll_iff :
    ((evaluateAll level spec).any fun r => !r.isAllowed) = true ↔ Forbids level spec := by
  simp only [evaluateAll, List.any_map, List.any_eq_true, Function.comp_apply, Bool.not_eq_true',
    Bool.eq_false_iff, ne_eq, isAllowed_evaluate_iff, Forbids]

theorem forbiddenReasons_eq_nil_iff : forbiddenReasons level spec = [] ↔ ¬ Forbids level spec := by
  rw [forbiddenReasons, List.map_eq_nil_iff, ← any_evaluateAll_iff]
  simp

end AdmissionForecast.Check
