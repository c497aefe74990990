import AdmissionForecast.Log.Event
import AdmissionForecast.Text.Blank

/-! # Settings of the log

The format, the least severity and whether lines carry the time, from the environment and the
command line. A value that is not understood counts as absent.
-/

namespace AdmissionForecast.Log

inductive Format where
  | human
  /-- One JSON object a line. -/
  | jsonLines
  deriving DecidableEq, Repr

def Format.ofName? : String → Option Format
  | "human" => some human
  | "jsonl" => some jsonLines
  | "json" => some jsonLines
  | _ => none

def Severity.directive : Severity → String
  | trace => "trace"
  | debug => "debug"
  | info => "info"
  | warn => "warn"
  | error => "error"

def Severity.ofName? : String → Option Severity
  | "trace" => some trace
  | "debug" => some debug
  | "info" => some info
  | "warn" => some warn
  | "warning" => some warn
  | "error" => some error
  | _ => none

structure Config where
  format : Format := .human
  severity : Severity := .info
  timestamps : Bool := true
  deriving DecidableEq, Repr

namespace Config

/-- The texts that turn the time on lines off. -/
def isOff (s : String) : Bool :=
  ["0", "false", "no"].contains (String.ofList (Text.trim s.toList))

/-- The settings of the environment, where names may be in any case. -/
def ofEnvironment (env : String → Option String) : Config :=
  let defaults : Config := {}
  { format := ((env "PSR_LOG_FORMAT").bind fun s => Format.ofName? s.toLower).getD defaults.format
    severity := ((env "PSR_LOG").bind fun s => Severity.ofName? s.toLower).getD defaults.severity
    timestamps := ((env "PSR_LOG_TIMESTAMPS").map fun s => !isOff s).getD defaults.timestamps }

def override (c : Config) (severity : Option Severity) (format : Option Format) : Config :=
  { c with severity := severity.getD c.severity, format := format.getD c.format }

end Config

end AdmissionForecast.Log
