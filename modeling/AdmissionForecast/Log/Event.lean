/-! # Log events

What is logged, as data: a severity, the part of the program that speaks, a message and
named fields. The events of a pass carry the identities of the run and the host and the stage
of the pass they belong to.
-/

namespace AdmissionForecast.Log

inductive Severity where
  | trace
  | debug
  | info
  | warn
  | error
  deriving DecidableEq, Repr

/-- The severities in ascending order. -/
def Severity.rank : Severity → Nat
  | trace => 1
  | debug => 2
  | info => 3
  | warn => 4
  | error => 5

def Severity.name : Severity → String
  | trace => "TRACE"
  | debug => "DEBUG"
  | info => "INFO"
  | warn => "WARN"
  | error => "ERROR"

/-- The part of the program that an event comes from. -/
inductive Component where
  | command
  | snapshot
  | resolution
  | detection
  | pass
  | status
  deriving DecidableEq, Repr

/-- The path that filters select events by. -/
def Component.target : Component → String
  | command => "psr_core"
  | snapshot => "psr_core::snapshot"
  | resolution => "psr_core::resolve"
  | detection => "psr_core::detect"
  | pass => "psr_core::controller"
  | status => "psr_core::status"

inductive FieldValue where
  /-- A text that is quoted on a line. -/
  | text (s : String)
  /-- A text that stands on a line as it is. -/
  | plain (s : String)
  | count (n : Nat)
  deriving DecidableEq, Repr

structure Event where
  severity : Severity
  component : Component
  message : String
  fields : List (String × FieldValue)
  deriving DecidableEq, Repr

/-- Whether the event has a field of the name; the message counts as one. -/
def Event.hasField (e : Event) (name : String) : Bool :=
  name = "message" || e.fields.any (·.1 = name)

inductive Stage where
  | start
  | resolution
  | simulation
  | attribution
  | aggregation
  | publication
  deriving DecidableEq, Repr

namespace Stage

def name : Stage → String
  | start => "init"
  | resolution => "resolve"
  | simulation => "simulate"
  | attribution => "attribute"
  | aggregation => "aggregate"
  | publication => "publish"

def ofName? : String → Option Stage
  | "init" => some start
  | "resolve" => some resolution
  | "simulate" => some simulation
  | "attribute" => some attribution
  | "aggregate" => some aggregation
  | "publish" => some publication
  | _ => none

end Stage

/-- What correlates the events of one invocation. -/
structure Context where
  runId : String
  hostId : String
  deriving DecidableEq, Repr

/-- An event of a pass: its stable name and the context come before its own fields. -/
def Context.event (ctx : Context) (component : Component) (severity : Severity) (name : String)
    (stage : Stage) (message : String) (fields : List (String × FieldValue)) : Event where
  severity := severity
  component := component
  message := message
  fields := [("event", .text name), ("run_id", .plain ctx.runId), ("host_id", .plain ctx.hostId),
    ("stage", .plain stage.name)] ++ fields

end AdmissionForecast.Log
