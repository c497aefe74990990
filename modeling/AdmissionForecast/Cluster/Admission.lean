import AdmissionForecast.Check.Standard
import AdmissionForecast.Cluster.Client
import AdmissionForecast.Cluster.Snapshot

/-! # Simulated admission

Answers dry runs from a snapshot the way the admission plugin does: the pods of the namespace
are evaluated at the level of the enforce label, and the ones that fail are reported by one
header and one line for each group that fails for the same reasons.
-/

namespace AdmissionForecast.Admission

/-- The pods that fail, each with its reasons in one text. -/
def failing (level : Level) (pods : List Pod) : List (String × String) :=
  pods.filterMap fun p =>
    match Check.forbiddenReasons level p.spec with
    | [] => none
    | reasons => some (", ".intercalate reasons, p.name)

/-- The names of the pods by their reasons, in ascending order of the reasons. -/
def groups (failing : List (String × String)) : StringMap (List String) :=
  failing.foldl (fun m f => m.modify f.1 fun names => names.getD [] ++ [f.2]) .empty

/-- Names the first pod in order and counts the others. -/
def subject (names : List String) : String :=
  match names.mergeSort (fun a b => decide (a ≤ b)) with
  | [] => ""
  | [p] => p
  | [p, _] => s!"{p} (and 1 other pod)"
  | p :: others => s!"{p} (and {others.length} other pods)"

def header (inNamespace : String) (level : LevelVersion) : String :=
  s!"existing pods in namespace {quote inNamespace} violate the new PodSecurity enforce level " ++
    quote level.text

/-- The warnings about the pods of a namespace at a level. -/
def warnings (inNamespace : String) (level : LevelVersion) (pods : List Pod) : List String :=
  match (groups (failing level.level pods)).entries with
  | [] => []
  | entries => header inNamespace level :: entries.map fun g => s!"{subject g.2}: {g.1}"

def dryRunOperation : String := "dry-run apply"

/-- Why a dry run is refused, or else the warnings it gives. -/
def answer (s : Snapshot) (version : String) (request : DryRunRequest) :
    Except ClientError (List String) :=
  let ns := request.inNamespace
  let refuse (reason : String) := Except.error (.request dryRunOperation ns reason)
  if s.dryRunFailures.contains ns then refuse "simulated failure"
  else if !s.namespaces.any (fun n => n.name = ns) then refuse "namespace not found"
  else match request.labels.get? WellKnown.enforceLabel with
    | none => .ok []
    | some value =>
      match Level.parseAnyCase value with
      | .error e => refuse e.message
      | .ok level => .ok (warnings ns ⟨level, version⟩ (s.podsIn ns))

def dryRun (s : Snapshot) (version : String) (request : DryRunRequest) (sink : WarningSink) :
    Except ClientError Unit × WarningSink :=
  match answer s version request with
  | .ok ws => (.ok (), sink.pushAll ws)
  | .error e => (.error e, sink)

/-- The client that answers from a snapshot, at one version of the policy. -/
def client (s : Snapshot) (version : String) : Client where
  namespaces := .ok s.namespaces
  dryRun := dryRun s version
  pods ns := .ok (s.podsIn ns)

def evaluator : PodEvaluator := fun level _ spec => Check.evaluateAll level.level spec

end AdmissionForecast.Admission
