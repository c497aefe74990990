import AdmissionForecast.ExitCode
import AdmissionForecast.Status.Basic
import AdmissionForecast.Storage

/-! # Publishing to a status file

Conditions are published by merging them into a status and writing that to a file: first to a
file beside it, which then takes its place in one step.
-/

namespace AdmissionForecast

inductive StatusError where
  | file (cause : FileError)
  | notJson
  deriving DecidableEq, Repr

def StatusError.toFault : StatusError → Fault
  | file cause => .file cause.message
  | notJson => .json "<json>"

structure StatusPublisher where
  path : String
  /-- Merge into this status in place of the file's own content. -/
  base : Option Status := none
  written : Option Status := none

namespace StatusPublisher

/-- The file that is written before it takes the place of the status file. -/
def temporaryPath (p : StatusPublisher) : String := Path.withExtension p.path "json.tmp"

def loadStatus {m : Type → Type} [Monad m] (storage : Storage m) (path : String) :
    m (Except StatusError Status) := do
  match ← storage.read path with
  | .error e => return .error (.file e)
  | .ok text => return (Status.parse text).mapError fun _ => .notJson

/-- The status to merge into: the base, or the file's content, or nothing. -/
def startStatus {m : Type → Type} [Monad m] (storage : Storage m) (p : StatusPublisher) :
    m (Except StatusError Status) := do
  match p.base with
  | some base => return .ok base
  | none =>
    if ← storage.exists? p.path then loadStatus storage p.path else return .ok {}

/-- Writes a text to the temporary file and moves that over the status file. -/
def replaceFile {m : Type → Type} [Monad m] (storage : Storage m) (p : StatusPublisher)
    (text : String) : m (Except FileError Unit) := do
  match ← storage.write p.temporaryPath text with
  | .error e => return .error e
  | .ok () => storage.rename p.temporaryPath p.path

def writtenEvent (p : StatusPublisher) (transitions : Nat) : Log.Event where
  severity := .debug
  component := .status
  message := "status written"
  fields := [("path", .plain p.path), ("transitions", .count transitions)]

def publishError (p : StatusPublisher) (e : StatusError) : ClientError :=
  .publish s!"{p.path}: {e.toFault.message}"

/-- Publishes conditions at a time. An error leaves the publisher as it was. -/
def publish {m : Type → Type} [Monad m] (storage : Storage m) (p : StatusPublisher)
    (now : Timestamp) (set : ConditionSet) :
    m (Trace Log.Event (Except ClientError StatusPublisher)) := do
  match ← startStatus storage p with
  | .error e => return pure (.error (p.publishError e))
  | .ok start =>
    let (status, transitions) := start.apply set now
    match ← replaceFile storage p status.render with
    | .error e => return pure (.error (p.publishError (.file e)))
    | .ok () => return ⟨[p.writtenEvent transitions], .ok { p with written := some status }⟩

end StatusPublisher

end AdmissionForecast
