import AdmissionForecast.Namespace

/-! # Categories of namespaces

Who owns a namespace, decided by a table of rules in order of priority: the first rule that
applies wins, and a namespace that no rule applies to belongs to a customer.
-/

namespace AdmissionForecast

inductive Category where
  | runLevelZero
  | openshiftManaged
  | syncDisabled
  | customer
  deriving DecidableEq, Repr, Inhabited

namespace Category

def all : List Category := [runLevelZero, openshiftManaged, syncDisabled, customer]

def rank : Category → Nat
  | runLevelZero => 0
  | openshiftManaged => 1
  | syncDisabled => 2
  | customer => 3

def name : Category → String
  | runLevelZero => "run_level_zero"
  | openshiftManaged => "openshift_managed"
  | syncDisabled => "sync_disabled"
  | customer => "customer"

def ofName? : String → Option Category
  | "run_level_zero" => some runLevelZero
  | "openshift_managed" => some openshiftManaged
  | "sync_disabled" => some syncDisabled
  | "customer" => some customer
  | _ => none

/-- Violations are laid to end users in customer namespaces only. -/
def allowsUserAttribution (c : Category) : Bool := c = customer

def toJson (c : Category) : Json := .string c.name

def reader : Reader Category := Reader.name ofName?

/-- A rule that puts the namespaces it applies to into a category. -/
structure Rule where
  name : String
  category : Category
  applies : Namespace → Bool

def isRunLevelZero (ns : Namespace) : Bool := WellKnown.runLevelZeroNames.contains ns.name

def hasPlatformName (ns : Namespace) : Bool :=
  WellKnown.platformNameStart.toList.isPrefixOf ns.name.toList

def hasLabelSyncDisabled (ns : Namespace) : Bool :=
  ns.label? WellKnown.labelSyncLabel = some "false"

/-- The rules in order of priority. -/
def rules : List Rule :=
  [⟨"run_level_zero_name", runLevelZero, isRunLevelZero⟩,
    ⟨"platform_prefix", openshiftManaged, hasPlatformName⟩,
    ⟨"label_sync_disabled", syncDisabled, hasLabelSyncDisabled⟩]

def matchingRules (ns : Namespace) : List String :=
  (rules.filter fun r => r.applies ns).map (·.name)

/-- The category of a namespace. -/
def classify (ns : Namespace) : Category :=
  ((rules.find? fun r => r.applies ns).map (·.category)).getD customer

end Category

end AdmissionForecast
