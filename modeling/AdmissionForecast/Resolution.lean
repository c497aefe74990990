import AdmissionForecast.Level
import AdmissionForecast.Log.Event
import AdmissionForecast.Namespace
import AdmissionForecast.Trace

/-! # Resolution of the level to simulate

The annotation that names a sufficient level is trusted and used as it stands. Without it the
strictest level among the alert labels counts, where values that name no level are logged and
ignored. A namespace with neither gives no signal.
-/

namespace AdmissionForecast

inductive LevelSource where
  | sufficientLevel
  | alertLabels
  deriving DecidableEq, Repr

def LevelSource.name : LevelSource → String
  | sufficientLevel => "minimally_sufficient_annotation"
  | alertLabels => "alert_labels"

/-- The value of the enforce label to simulate. -/
structure ResolvedLevel where
  value : String
  source : LevelSource
  deriving DecidableEq, Repr

/-- The level that admission takes the value for. -/
def ResolvedLevel.level (r : ResolvedLevel) : Except InvalidLevel Level :=
  Level.parseAnyCase r.value

inductive ResolveError where
  | noSignal
  deriving DecidableEq, Repr

def ResolveError.message : ResolveError → String
  | noSignal =>
    "unable to determine if the namespace is violating because no appropriate labels or " ++
      "annotations were found"

namespace Resolution

def ignoredEvent (inNamespace label value : String) (e : InvalidLevel) : Log.Event where
  severity := .debug
  component := .resolution
  message := "ignoring invalid pod security level"
  fields := [("namespace", .text inNamespace), ("label", .text label), ("value", .text value),
    ("error", .plain e.message)]

/-- The event for a candidate, if it is ignored. -/
def ignored? (inNamespace : String) (candidate : String × String) : Option Log.Event :=
  match Level.parse candidate.2 with
  | .ok _ => none
  | .error e => some (ignoredEvent inNamespace candidate.1 candidate.2 e)

/-- The strictest level among labels with their values. -/
def pickStrictest (inNamespace : String) (candidates : List (String × String)) :
    Trace Log.Event (Option Level) where
  steps := candidates.filterMap (ignored? inNamespace)
  result := Level.strictest (candidates.filterMap fun c => Level.ofName? c.2)

def candidates (ns : Namespace) : List (String × String) :=
  WellKnown.alertLabels.filterMap fun key => (ns.label? key).map (key, ·)

end Resolution

def resolve (ns : Namespace) : Trace Log.Event (Except ResolveError ResolvedLevel) :=
  match ns.annotated? WellKnown.sufficientLevelKey with
  | some value => pure (.ok ⟨value, .sufficientLevel⟩)
  | none => do
    let picked ← Resolution.pickStrictest ns.name (Resolution.candidates ns)
    return match picked with
      | some l => .ok ⟨l.name, .alertLabels⟩
      | none => .error .noSignal

end AdmissionForecast
