import AdmissionForecast.Fault
import AdmissionForecast.Pass

/-! # Exit codes

The outcome of a command as one number: below ten for the outcomes of a pass, from ten on for
errors of the user or the environment, and from twenty on for internal errors.
-/

namespace AdmissionForecast

inductive ExitCode where
  | clean
  | violationsDetected
  | inconclusive
  | partialFailure
  | argumentError
  | configError
  | internalError
  | ioError
  deriving DecidableEq, Repr

namespace ExitCode

def all : List ExitCode :=
  [clean, violationsDetected, inconclusive, partialFailure, argumentError, configError,
    internalError, ioError]

def toNat : ExitCode → Nat
  | clean => 0
  | violationsDetected => 1
  | inconclusive => 2
  | partialFailure => 3
  | argumentError => 10
  | configError => 11
  | internalError => 20
  | ioError => 21

def name : ExitCode → String
  | clean => "OK_CLEAN"
  | violationsDetected => "OK_VIOLATIONS"
  | inconclusive => "OK_INCONCLUSIVE"
  | partialFailure => "ERR_PARTIAL"
  | argumentError => "ERR_ARGS"
  | configError => "ERR_CONFIG"
  | internalError => "ERR_INTERNAL"
  | ioError => "ERR_IO"

def text (c : ExitCode) : String := s!"{c.name} ({c.toNat})"

/-- Whether the code tells the outcome of a pass. -/
def isOperational (c : ExitCode) : Bool := c.toNat < 10

def isUserError (c : ExitCode) : Bool := 10 ≤ c.toNat && c.toNat < 20

def isInternalError (c : ExitCode) : Bool := 20 ≤ c.toNat

/-- The code for a pass that ended: failures outrank violations, which outrank namespaces that
cannot be decided. -/
def ofReport (r : PassReport) : ExitCode :=
  if r.hasFailures then partialFailure
  else if 0 < r.violating then violationsDetected
  else if 0 < r.inconclusive then inconclusive
  else clean

def ofFault (f : Fault) : ExitCode :=
  match f.category with
  | .config | .resolution => configError
  | .io | .cluster => ioError
  | .evaluation => internalError

end ExitCode

end AdmissionForecast
