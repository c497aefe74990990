import AdmissionForecast.Category
import AdmissionForecast.Resolution
import Mathlib.Tactic.Common

/-! # What a namespace asks for

The level to simulate can be read off one annotation and two labels of a namespace, and a
customer's namespace is known by its name and one label. Resolution and the table of rules
agree with these readings.
-/

namespace AdmissionForecast

namespace Namespace

/-- The stricter of the levels that the two alert labels name exactly. -/
def alertLevel? (ns : Namespace) : Option Level :=
  [.restricted, .baseline, .privileged].find? fun l =>
    ns.label? WellKnown.warnLabel = some l.name ∨ ns.label? WellKnown.auditLabel = some l.name

/-- The value to simulate: the annotation as it stands, or else the name of the alert level. -/
def askedValue? (ns : Namespace) : Option String :=
  (ns.annotated? WellKnown.sufficientLevelKey).or (ns.alertLevel?.map (·.name))

/-- A namespace that neither the platform nor its owner keeps for themselves. -/
def IsCustomer (ns : Namespace) : Prop :=
  ns.name ∉ WellKnown.runLevelZeroNames ∧
    ¬ WellKnown.platformNameStart.toList <+: ns.name.toList ∧
    ns.label? WellKnown.labelSyncLabel ≠ some "false"

instance (ns : Namespace) : Decidable ns.IsCustomer := inferInstanceAs (Decidable (_ ∧ _ ∧ _))

theorem askedValue?_eq_none_iff {ns : Namespace} :
    ns.askedValue? = none ↔ ns.annotated? WellKnown.sufficientLevelKey = none ∧
      ∀ l : Level, ns.label? WellKnown.warnLabel ≠ some l.name ∧
        ns.label? WellKnown.auditLabel ≠ some l.name := by
  have ha : ns.alertLevel? = none ↔ ∀ l : Level, ns.label? WellKnown.warnLabel ≠ some l.name ∧
      ns.label? WellKnown.auditLabel ≠ some l.name := by
    simp only [alertLevel?, List.find?_eq_none, decide_eq_true_eq, not_or]
    constructor
    · intro h l
      exact h l (by cases l <;> simp)
    · exact fun h l _ => h l
  rw [askedValue?, Option.or_eq_none_iff, Option.map_eq_none_iff, ha]

end Namespace

namespace Resolution

variable {ns : Namespace}

theorem filterMap_candidates (ns : Namespace) :
    (candidates ns).filterMap (fun c => Level.ofName? c.2) =
      ((ns.label? WellKnown.warnLabel).bind Level.ofName?).toList ++
        ((ns.label? WellKnown.auditLabel).bind Level.ofName?).toList := by
  have hc (key : String) : ((ns.label? key).map (key, ·)).bind (fun c => Level.ofName? c.2) =
      (ns.label? key).bind Level.ofName? := by
    cases ns.label? key <;> rfl
  rw [candidates, List.filterMap_filterMap]
  simp only [hc, WellKnown.alertLabels, List.filterMap_cons, List.filterMap_nil]
  cases (ns.label? WellKnown.warnLabel).bind Level.ofName? <;>
    cases (ns.label? WellKnown.auditLabel).bind Level.ofName? <;> rfl

theorem strictest_pair (a b : Option Level) :
    Level.strictest (a.toList ++ b.toList) =
      [.restricted, .baseline, .privileged].find? fun l => a = some l ∨ b = some l := by
  rcases a with _ | _ | _ | _ <;> rcases b with _ | _ | _ | _ <;> rfl

theorem result_pickStrictest (ns : Namespace) :
    (pickStrictest ns.name (candidates ns)).result = ns.alertLevel? := by
  have hl (key : String) (l : Level) :
      (ns.label? key).bind Level.ofName? = some l ↔ ns.label? key = some l.name := by
    simp [Option.bind_eq_some_iff, Level.ofName?_eq_some_iff]
  rw [pickStrictest, filterMap_candidates, strictest_pair]
  simp only [hl, Namespace.alertLevel?]

end Resolution

theorem value_resolve (ns : Namespace) :
    ((resolve ns).result.map (·.value)).toOption = ns.askedValue? := by
  unfold resolve Namespace.askedValue?
  cases ns.annotated? WellKnown.sufficientLevelKey with
  | some v => rfl
  | none =>
    simp only [Trace.result_bind, Resolution.result_pickStrictest]
    cases ns.alertLevel? <;> rfl

theorem Category.classify_eq_customer_iff {ns : Namespace} :
    Category.classify ns = .customer ↔ ns.IsCustomer := by
  have hz : isRunLevelZero ns = true ↔ ns.name ∈ WellKnown.runLevelZeroNames := by
    simp [isRunLevelZero]
  have hp : hasPlatformName ns = true ↔
      WellKnown.platformNameStart.toList <+: ns.name.toList := by
    simp [hasPlatformName]
  have hs : hasLabelSyncDisabled ns = true ↔ ns.label? WellKnown.labelSyncLabel = some "false" := by
    simp [hasLabelSyncDisabled]
  rw [Namespace.IsCustomer, ← hz, ← hp, ne_eq, ← hs]
  cases h₁ : isRunLevelZero ns <;> cases h₂ : hasPlatformName ns <;>
    cases h₃ : hasLabelSyncDisabled ns <;> simp [classify, rules, h₁, h₂, h₃]

end AdmissionForecast
