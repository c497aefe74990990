import AdmissionForecast.Category
import AdmissionForecast.Cluster.Client
import AdmissionForecast.Resolution

/-! # Detection of violations

For one namespace: the level to simulate is resolved, the enforce label is tried in a dry run,
and warnings say that the namespace would violate it. In a customer's namespace the pods that
were admitted for end users are evaluated again to tell whose violation it is.
-/

namespace AdmissionForecast

/-- Who is responsible for a violation. -/
inductive Attribution where
  | userWorkload
  | operatorWorkload
  | unknown
  deriving DecidableEq, Repr

namespace Attribution

def name : Attribution → String
  | userWorkload => "user_workload"
  | operatorWorkload => "operator_workload"
  | unknown => "unknown"

def logName : Attribution → String
  | userWorkload => "UserWorkload"
  | operatorWorkload => "OperatorWorkload"
  | unknown => "Unknown"

end Attribution

/-- Why a namespace cannot be decided. -/
inductive InconclusiveReason where
  | noSignal
  deriving DecidableEq, Repr

inductive Outcome where
  | notViolating
  | violating (attribution : Attribution)
  | inconclusive (reason : InconclusiveReason)
  deriving DecidableEq, Repr

namespace Outcome

def verdict : Outcome → String
  | notViolating => "not_violating"
  | violating _ => "violating"
  | inconclusive _ => "inconclusive"

def detail? : Outcome → Option String
  | notViolating => none
  | violating a => some a.name
  | inconclusive .noSignal => some "no_signal"

def isViolating : Outcome → Bool
  | violating _ => true
  | _ => false

def isInconclusive : Outcome → Bool
  | inconclusive _ => true
  | _ => false

def toJson (o : Outcome) : Json :=
  .record [Json.field "verdict" (.string o.verdict),
    Json.field? "detail" (o.detail?.map .string)]

end Outcome

/-- A failure to evaluate a namespace. -/
inductive DetectError where
  | collaborator (cause : ClientError)
  | internal (inNamespace reason : String)
  deriving DecidableEq, Repr

def DetectError.message : DetectError → String
  | collaborator cause => cause.message
  | internal ns reason => s!"namespace {quote ns}: {reason}"

/-- Everything that was learned about one namespace. -/
structure Detection where
  inNamespace : String
  category : Category
  /-- The value of the enforce label that was simulated. -/
  level : Option String
  outcome : Outcome
  warnings : List String
  deriving DecidableEq, Repr

def Detection.toJson (d : Detection) : Json :=
  .record [Json.field "namespace" (.string d.inNamespace),
    Json.field "category" d.category.toJson,
    Json.field? "level" (d.level.map .string), Json.field "outcome" d.outcome.toJson,
    Json.fieldUnlessEmpty "warnings" .string d.warnings]

/-- What happens during a detection: events, and requests to the collaborators. -/
inductive DetectStep where
  | logged (event : Log.Event)
  | dryRun (request : DryRunRequest)
  | listPods (inNamespace : String)
  | evaluatePod (level : LevelVersion) (pod : ObjectMeta)
  deriving DecidableEq

def DetectStep.event? : DetectStep → Option Log.Event
  | logged e => some e
  | _ => none

structure Detector where
  client : Client
  evaluator : PodEvaluator
  fieldManager : String
  version : String := LevelVersion.latest
  attributeUserWorkloads : Bool := true

namespace Detector

def inconclusiveEvent (ns : Namespace) (category : Category) (e : ResolveError) : Log.Event where
  severity := .debug
  component := .detection
  message := "namespace is inconclusive"
  fields := [("namespace", .text ns.name), ("category", .plain category.name),
    ("error", .plain e.message)]

def violationEvent (ns : Namespace) (category : Category) (level : String) (warnings : Nat)
    (attribution : Attribution) : Log.Event where
  severity := .debug
  component := .detection
  message := "namespace would violate enforcement"
  fields := [("namespace", .text ns.name), ("category", .plain category.name),
    ("level", .plain level), ("warnings", .count warnings),
    ("attribution", .plain attribution.logName)]

def userWorkloadEvent (inNamespace pod : String) : Log.Event where
  severity := .debug
  component := .detection
  message := "user workload violates level"
  fields := [("namespace", .text inNamespace), ("pod", .text pod)]

/-- The request that tries a value of the enforce label. -/
def request (d : Detector) (inNamespace value : String) : DryRunRequest :=
  ⟨inNamespace, StringMap.empty.insert WellKnown.enforceLabel value, d.fieldManager⟩

/-- The warnings of a dry run of the enforce label. -/
def simulate (d : Detector) (inNamespace value : String) :
    Trace DetectStep (Except ClientError (List String)) :=
  let request := d.request inNamespace value
  let (result, sink) := d.client.dryRun request {}
  ⟨[.dryRun request], result.map fun _ => sink.drain.1⟩

/-- The namespace that a listed pod names, if it is not the one that was asked for. -/
def foreignNamespace? (inNamespace : String) (pod : Pod) : Option String :=
  pod.metadata.inNamespace.filter (· ≠ inNamespace)

def forbids (d : Detector) (level : LevelVersion) (pod : Pod) : Bool :=
  (d.evaluator level pod.metadata pod.spec).any fun r => !r.isAllowed

/-- Goes through the pods of a namespace up to the first one that decides: one of another
namespace, or one of an end user that fails. -/
def attributePods (d : Detector) (inNamespace : String) (level : LevelVersion) :
    List Pod → Trace DetectStep (Except DetectError Attribution)
  | [] => pure (.ok .operatorWorkload)
  | pod :: rest =>
    match foreignNamespace? inNamespace pod with
    | some other =>
      pure (.error (.internal inNamespace
        s!"pod {quote pod.name} listed from namespace {quote other}"))
    | none =>
      if pod.isUserWorkload then do
        Trace.step (.evaluatePod level pod.metadata)
        if d.forbids level pod then do
          Trace.step (.logged (userWorkloadEvent inNamespace pod.name))
          return .ok .userWorkload
        else attributePods d inNamespace level rest
      else attributePods d inNamespace level rest

/-- Whose violation it is, where the settings ask for that. -/
def attributeViolation (d : Detector) (inNamespace : String) (category : Category)
    (resolved : ResolvedLevel) : Trace DetectStep (Except DetectError Attribution) :=
  if !category.allowsUserAttribution || !d.attributeUserWorkloads then
    pure (.ok .unknown)
  else match resolved.level with
    | .error e => pure (.error (.internal inNamespace e.message))
    | .ok level => do
      Trace.step (.listPods inNamespace)
      match d.client.pods inNamespace with
      | .error e => return .error (.collaborator e)
      | .ok pods => d.attributePods inNamespace ⟨level, d.version⟩ pods

def inspect (d : Detector) (ns : Namespace) :
    Trace DetectStep (Except DetectError Detection) := do
  let category := Category.classify ns
  let detection level outcome warnings : Detection := ⟨ns.name, category, level, outcome, warnings⟩
  match ← (resolve ns).mapSteps .logged with
  | .error e =>
    Trace.step (.logged (inconclusiveEvent ns category e))
    return .ok (detection none (.inconclusive .noSignal) [])
  | .ok resolved =>
    match ← d.simulate ns.name resolved.value with
    | .error e => return .error (.collaborator e)
    | .ok [] => return .ok (detection (some resolved.value) .notViolating [])
    | .ok warnings =>
      match ← d.attributeViolation ns.name category resolved with
      | .error e => return .error e
      | .ok attribution =>
        Trace.step (.logged
          (violationEvent ns category resolved.value warnings.length attribution))
        return .ok (detection (some resolved.value) (.violating attribution) warnings)

def detect (d : Detector) (ns : Namespace) : Trace DetectStep (Except DetectError Outcome) := do
  return (← d.inspect ns).map (·.outcome)

end Detector

end AdmissionForecast
