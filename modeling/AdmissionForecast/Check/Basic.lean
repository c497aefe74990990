import AdmissionForecast.Level
import AdmissionForecast.Pod.Basic
import AdmissionForecast.Text.Quoted

/-! # Checks of pods

A check looks at a pod's spec and lists what it forbids there, in words; a pod passes a check
that lists nothing.
-/

namespace AdmissionForecast

inductive CheckResult where
  | allowed
  | forbidden (reason detail : String)
  deriving DecidableEq, Repr

namespace CheckResult

def isAllowed : CheckResult → Bool
  | allowed => true
  | forbidden .. => false

/-- The reason, empty for a pod that is allowed. -/
def reason : CheckResult → String
  | allowed => ""
  | forbidden reason _ => reason

def detail : CheckResult → String
  | allowed => ""
  | forbidden _ detail => detail

end CheckResult

structure Check where
  id : String
  /-- The weakest level that enforces the check. -/
  level : Level
  /-- The short reason that is given for a pod that fails. -/
  reason : String
  /-- What the check forbids in a spec. -/
  details : PodSpec → List String
  /-- The weaker checks that this one takes the place of. -/
  overrides : List String := []

def Check.evaluate (c : Check) (spec : PodSpec) : CheckResult :=
  match c.details spec with
  | [] => .allowed
  | details => .forbidden c.reason ("; ".intercalate details)

namespace Check

/-- The names of the containers that are bad, init containers first. -/
def offenders (bad : Container → Bool) (spec : PodSpec) : List String :=
  (spec.allContainers.filter bad).map (·.name)

def badVolumes (bad : Volume → Bool) (spec : PodSpec) : List String :=
  (spec.volumes.filter bad).map (·.name)

/-- A sentence about some names, if there are any. -/
def about (names : List String) (sentence : List String → String) : List String :=
  if names.isEmpty then [] else [sentence names]

/-- The singular for one name and the plural for several. -/
def counted (names : List String) (singular plural : String) : String :=
  if names.length = 1 then singular else plural

def containersPhrase (names : List String) : String :=
  counted names "container " "containers " ++ quoteAll names

def volumesPhrase (names : List String) : String :=
  counted names "volume " "volumes " ++ quoteAll names

/-- The texts in ascending order, each one once. -/
def ascendingOnce (xs : List String) : List String :=
  (StringMap.ofList (xs.map fun x => (x, ()))).keys

end Check

end AdmissionForecast
