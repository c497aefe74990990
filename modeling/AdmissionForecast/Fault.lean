import AdmissionForecast.Level

/-! # Faults

What can stop a command, with stable codes for machines and advice for people.
-/

namespace AdmissionForecast

inductive FaultCategory where
  | config
  | resolution
  | cluster
  | evaluation
  | io
  deriving DecidableEq, Repr

namespace FaultCategory

def name : FaultCategory → String
  | config => "config"
  | resolution => "resolution"
  | cluster => "cluster"
  | evaluation => "evaluation"
  | io => "io"

def ofName? : String → Option FaultCategory
  | "config" => some config
  | "resolution" => some resolution
  | "cluster" => some cluster
  | "evaluation" => some evaluation
  | "io" => some io
  | _ => none

end FaultCategory

inductive Fault where
  | config (reason : String)
  | invalidLevel (cause : InvalidLevel)
  | snapshot (reason : String)
  | cluster (reason : String)
  | internal (reason : String)
  | file (reason : String)
  | json (reason : String)
  deriving DecidableEq, Repr

namespace Fault

def message : Fault → String
  | config reason => "configuration error: " ++ reason
  | invalidLevel cause => "invalid level: " ++ cause.message
  | snapshot reason => "snapshot error: " ++ reason
  | cluster reason => "cluster request failed: " ++ reason
  | internal reason => "internal evaluation error: " ++ reason
  | file reason => "I/O error: " ++ reason
  | json reason => "JSON serialization error: " ++ reason

/-- The code of the fault; codes of one category lie in one range of ten. -/
def code : Fault → Nat
  | config _ => 10
  | invalidLevel _ => 20
  | snapshot _ => 30
  | cluster _ => 31
  | internal _ => 40
  | file _ => 60
  | json _ => 61

def category : Fault → FaultCategory
  | config _ => .config
  | invalidLevel _ => .resolution
  | snapshot _ => .cluster
  | cluster _ => .cluster
  | internal _ => .evaluation
  | file _ => .io
  | json _ => .io

/-- Whether another attempt or other input may help. -/
def isRecoverable : Fault → Bool
  | internal _ => false
  | _ => true

def remediation : Fault → String
  | config _ =>
    "Run 'psr-core check' to validate configuration, or check syntax in config.json."
  | invalidLevel _ =>
    "Use one of privileged, baseline, restricted for Pod Security labels and annotations."
  | snapshot _ =>
    "Re-export the snapshot with 'kubectl get ns,pods -A -o json' and check it is valid JSON."
  | cluster _ => "Retry the pass. If persistent, check API server connectivity."
  | internal _ => "This is a bug. Report it with the namespace and its labels."
  | file _ => "Check that the file exists and is readable, then retry."
  | json _ => "Invalid JSON in file. Check syntax with 'jq . <file>'."

def headline : Fault → String
  | config _ => "Configuration Error"
  | invalidLevel _ => "Invalid Pod Security Level"
  | snapshot _ => "Cluster Snapshot Error"
  | cluster _ => "Cluster Request Failed"
  | internal _ => "Internal Error"
  | file _ => "I/O Error"
  | json _ => "JSON Error"

/-- The fault for a terminal: headline, reason and advice on three lines. -/
def humanText (f : Fault) : String :=
  s!"✗ {f.headline}\n  Reason: {f.message}\n  Fix: {f.remediation}"

end Fault

end AdmissionForecast
