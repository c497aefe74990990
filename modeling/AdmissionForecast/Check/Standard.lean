import AdmissionForecast.Check.Restricted

/-! # The standard checks

Which checks a level enforces: its own and those of the levels below it, less the ones that a
stronger check takes the place of. The privileged level enforces none.
-/

namespace AdmissionForecast.Check

def standard : List Check := Baseline.all ++ Restricted.all

/-- Whether a level enforces the check, overrides aside. -/
def appliesAt (level : Level) (c : Check) : Bool := level ≠ .privileged && c.level ≤ level

def overriddenAt (level : Level) : List String :=
  (standard.filter (appliesAt level)).flatMap (·.overrides)

/-- The checks that a level enforces. -/
def enforcedAt (level : Level) : List Check :=
  (standard.filter (appliesAt level)).filter fun c => !(overriddenAt level).contains c.id

def evaluateAll (level : Level) (spec : PodSpec) : List CheckResult :=
  (enforcedAt level).map fun c => c.evaluate spec

/-- The reasons why a level forbids a pod; none if it allows the pod. -/
def forbiddenReasons (level : Level) (spec : PodSpec) : List String :=
  ((evaluateAll level spec).filter fun r => !r.isAllowed).map (·.reason)

end AdmissionForecast.Check
