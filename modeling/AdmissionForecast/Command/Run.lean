import AdmissionForecast.Cluster.Admission
import AdmissionForecast.Command.Arguments
import AdmissionForecast.Command.Report
import AdmissionForecast.Config.Load
import AdmissionForecast.Log.Filter
import AdmissionForecast.Log.Line
import AdmissionForecast.Status.Publisher

/-! # Running commands

The three commands over any storage: evaluate a snapshot, show what its namespaces resolve to,
and check the configuration. A run has notices for the error stream, a text for the output and
an exit code.
-/

namespace AdmissionForecast.Command

/-- What goes to the error stream. -/
inductive Notice where
  | event (e : Log.Event)
  | line (s : String)
  deriving DecidableEq, Repr

structure Result where
  output : String
  code : ExitCode
  deriving DecidableEq, Repr

/-- What surrounds a run: the storage, the clock, the environment and the identities. -/
structure World (m : Type → Type) where
  storage : Storage m
  now : m Timestamp
  environment : Environment
  context : Log.Context

/-- The end of a run that a fault stops. -/
def fail (format : OutputFormat) (f : Fault) : Trace Notice Result :=
  match format with
  | .json => pure ⟨Report.compactLine (Report.faultJson f), .ofFault f⟩
  | .human | .summary => ⟨[.line f.humanText], ⟨"", .ofFault f⟩⟩

section

variable {m : Type → Type} [Monad m] (w : World m)

def loadConfig (i : Invocation) : m (Except Fault LoadedConfig) := do
  let loaded ← LoadedConfig.load w.storage w.environment i.configPath
  return loaded.mapError fun e => .config e.message

def loadSnapshot (path : String) : m (Except Fault Snapshot) := do
  match ← w.storage.read path with
  | .error e => return .error (.file e.message)
  | .ok text =>
    return (Snapshot.parse text).mapError fun e => .snapshot s!"{path}: {Snapshot.errorText e}"

def snapshotEvent (path : String) (s : Snapshot) : Notice :=
  .event {
    severity := .debug
    component := .snapshot
    message := "snapshot loaded"
    fields := [("path", .plain path), ("namespaces", .count s.namespaces.length),
      ("pods", .count s.pods.length)] }

def configLoadedEvent (l : LoadedConfig) : Notice :=
  .event (w.context.event .command .debug "config.loaded" .start "configuration loaded"
    [("source", .plain l.source.text)])

def snapshotLoadedEvent (s : Snapshot) : Notice :=
  .event (w.context.event .command .debug "snapshot.loaded" .start "cluster snapshot loaded"
    [("namespaces", .count s.namespaces.length)])

/-- The status to merge into, if one is asked for. -/
def loadBase (path : Option String) : m (Except Fault (Option Status)) := do
  match path with
  | none => return .ok none
  | some path =>
    match ← StatusPublisher.loadStatus w.storage path with
    | .error e => return .error e.toFault
    | .ok status => return .ok (some status)

def noticesOf (steps : List DetectStep) : List Notice :=
  steps.filterMap fun s => s.event?.map .event

/-- Runs the pass. Where the status is to be written, what is written is also what is shown;
else a base is merged for show only. -/
def runPass (pass : Pass) (base : Option Status) (writeStatus : Option String) :
    m (Trace DetectStep (Except PassError (PassReport × Option Status))) := do
  match writeStatus with
  | some path =>
    let publisher : StatusPublisher := { path, base }
    let now ← w.now
    let done ← pass.sync (publisher.publish w.storage now)
    return ⟨done.steps, done.result.map fun r => (r.1, r.2.written)⟩
  | none =>
    let now ← w.now
    let done := pass.evaluate
    return ⟨done.steps, done.result.map fun r => (r, base.map fun s => (s.apply r.conditions now).1)⟩

def evaluate (i : Invocation) (snapshotPath : String) (status writeStatus : Option String) :
    m (Trace Notice Result) := do
  match ← loadConfig w i with
  | .error f => return fail i.format f
  | .ok loaded =>
  let notices := [configLoadedEvent w loaded]
  match ← loadSnapshot w snapshotPath with
  | .error f => return ⟨notices, ()⟩ >>= fun _ => fail i.format f
  | .ok snapshot =>
  let notices := notices ++ [snapshotEvent snapshotPath snapshot, snapshotLoadedEvent w snapshot]
  match ← loadBase w status with
  | .error f => return ⟨notices, ()⟩ >>= fun _ => fail i.format f
  | .ok base =>
  let pass : Pass :=
    { client := Admission.client snapshot loaded.config.policyVersion
      evaluator := Admission.evaluator
      config := loaded.config
      context := w.context }
  let done ← runPass w pass base writeStatus
  let notices := notices ++ noticesOf done.steps
  match done.result with
  | .error e => return ⟨notices, ()⟩ >>= fun _ => fail i.format (.cluster e.message)
  | .ok (report, merged) =>
    return ⟨notices, ⟨Report.pass i.format report merged, .ofReport report⟩⟩

def resolveLevels (i : Invocation) (snapshotPath : String) (only : Option String) :
    m (Trace Notice Result) := do
  match ← loadConfig w i with
  | .error f => return fail i.format f
  | .ok _ =>
  match ← loadSnapshot w snapshotPath with
  | .error f => return fail i.format f
  | .ok snapshot =>
  let notices := [snapshotEvent snapshotPath snapshot]
  let selected := snapshot.namespaces.filter fun ns => only.all (· = ns.name)
  match only, selected with
  | some name, [] =>
    return ⟨notices ++ [.line s!"namespace {quote name} not found in snapshot"],
      ⟨"", .argumentError⟩⟩
  | _, _ =>
    let rows := Trace.forEach selected fun ns => (resolve ns).mapSteps Notice.event
    let shown := selected.zip rows.result
    return ⟨notices ++ rows.steps,
      ⟨Report.resolved i.format (shown.map fun r => ⟨r.1, r.2⟩), .clean⟩⟩

def check (i : Invocation) : m (Trace Notice Result) := do
  match ← loadConfig w i with
  | .error f => return fail i.format f
  | .ok loaded =>
    let now ← w.now
    match i.format with
    | .json =>
      return pure ⟨Report.compactLine (.record [Json.field "status" (.string "ok"),
        Json.field "config" (loaded.toJsonAt now.text)]), .clean⟩
    | .human | .summary =>
      return pure ⟨Report.line (s!"✓ configuration ok ({loaded.source.text}, " ++
        s!"schema {loaded.config.schemaVersion})"), .clean⟩

def run (i : Invocation) : m (Trace Notice Result) :=
  match i.task with
  | .evaluate snapshot status writeStatus => evaluate w i snapshot status writeStatus
  | .resolve snapshot only => resolveLevels w i snapshot only
  | .check => check w i

end

/-- The settings of the log for a run. -/
def logConfig (env : Environment) (i : Invocation) : Log.Config :=
  (Log.Config.ofEnvironment env).override i.logSeverity i.logFormat

/-- The lines on the error stream: the events that the filter allows, and all other lines. -/
def errorLines (env : Environment) (i : Invocation) (now : String) (notices : List Notice) :
    List String :=
  let config := logConfig env i
  let filter := Log.Filter.ofEnvironment env config
  notices.filterMap fun
    | .event e => if filter.allows e then some (e.render config now) else none
    | .line s => some s

def versionText (c : Option CommandName) : String :=
  match c with
  | some c => s!"psr-core-{c.text} 0.1.0"
  | none => "psr-core 0.1.0"

end AdmissionForecast.Command
