import AdmissionForecast.Category
import AdmissionForecast.Detection

/-! # Conditions

What a pass found is put into eight conditions, one for each category and verdict, whether or
not a namespace landed in them. Their types, reasons and messages are what operators rely on.
-/

namespace AdmissionForecast

inductive ConditionStatus where
  | true
  | false
  deriving DecidableEq, Repr

namespace ConditionStatus

def name : ConditionStatus → String
  | true => "True"
  | false => "False"

def ofName? : String → Option ConditionStatus
  | "True" => some true
  | "False" => some false
  | _ => none

def toJson (s : ConditionStatus) : Json := .string s.name

def reader : Reader ConditionStatus := Reader.name ofName?

end ConditionStatus

structure Condition where
  type : String
  status : ConditionStatus
  reason : String
  message : Option String
  deriving DecidableEq, Repr

namespace Condition

def toJson (c : Condition) : Json :=
  .record [Json.field "type" (.string c.type), Json.field "status" c.status.toJson,
    Json.field "reason" (.string c.reason), Json.field? "message" (c.message.map .string)]

def fields : Fields Condition :=
  Condition.mk <$> .required "type" Reader.string <*> .required "status" ConditionStatus.reader
    <*> .required "reason" Reader.string <*> .optional "message" Reader.string

def reader : Reader Condition := fields.reader

end Condition

abbrev ConditionSet := List Condition

namespace ConditionSet

def toJson (set : ConditionSet) : Json := .array (set.map Condition.toJson)

def reader : Reader ConditionSet := Reader.list Condition.reader

def get? (set : ConditionSet) (type : String) : Option Condition :=
  set.find? fun c => c.type = type

def firing (set : ConditionSet) : List Condition := set.filter fun c => c.status = .true

end ConditionSet

/-- The two verdicts that conditions are about. -/
inductive Verdict where
  | violating
  | inconclusive
  deriving DecidableEq, Repr

namespace Verdict

def reason : Verdict → String
  | violating => "PSViolationsDetected"
  | inconclusive => "PSViolationDecisionInconclusive"

def message (v : Verdict) (names : List String) : String :=
  let listed := " ".intercalate names
  match v with
  | violating => s!"Violations detected in namespaces: [{listed}]"
  | inconclusive => s!"Could not evaluate violations for namespaces: [{listed}]"

end Verdict

/-- What is found in the course of a pass: the names of the namespaces by category and
verdict, in the order they were found. -/
structure Findings where
  names : Category → Verdict → List String := fun _ _ => []

namespace Findings

def expectedReason : String := "ExpectedReason"

/-- How a category is called in the types of conditions. -/
def categoryWord : Category → String
  | .customer => "Customer"
  | .openshiftManaged => "Openshift"
  | .runLevelZero => "RunLevelZero"
  | .syncDisabled => "DisabledSyncer"

def verdictWord : Verdict → String
  | .violating => "Violation"
  | .inconclusive => "Inconclusive"

def conditionType (c : Category) (v : Verdict) : String :=
  "PodSecurity" ++ categoryWord c ++ "Evaluation" ++ verdictWord v ++ "ConditionsDetected"

/-- The categories in the order of their conditions. -/
def conditionOrder : List Category := [.customer, .openshiftManaged, .runLevelZero, .syncDisabled]

/-- The category and verdict of each condition, in order. -/
def table : List (Category × Verdict) :=
  conditionOrder.map (·, .violating) ++ conditionOrder.map (·, .inconclusive)

/-- The findings with one more name. -/
def add (f : Findings) (c : Category) (v : Verdict) (name : String) : Findings where
  names c' v' := if c' = c ∧ v' = v then f.names c' v' ++ [name] else f.names c' v'

/-- The findings with the outcome for one more namespace. A namespace that does not violate
is found nowhere. -/
def record (f : Findings) (c : Category) (o : Outcome) (name : String) : Findings :=
  match o with
  | .notViolating => f
  | .violating _ => f.add c .violating name
  | .inconclusive _ => f.add c .inconclusive name

/-- The condition of a type for the names in one place. -/
def condition (type : String) (v : Verdict) (names : List String) : Condition :=
  match names.mergeSort (fun a b => decide (a ≤ b)) with
  | [] => ⟨type, .false, expectedReason, none⟩
  | sorted => ⟨type, .true, v.reason, some (v.message sorted)⟩

def render (f : Findings) : ConditionSet :=
  table.map fun (c, v) => condition (conditionType c v) v (f.names c v)

end Findings

end AdmissionForecast
