import AdmissionForecast.Json.Read
import AdmissionForecast.Text.Blank
import AdmissionForecast.Text.Quoted

/-! # Configuration

The settings of a pass, their defaults, and the rules that they have to keep.
-/

namespace AdmissionForecast

structure Config where
  schemaVersion : String
  /-- How many namespaces are evaluated at once. -/
  workers : UInt64 := 1
  /-- The field manager that is sent with every dry run. -/
  fieldManager : String := "pod-security-readiness-controller"
  /-- Whether violations are attributed to the workloads of end users. -/
  attributeUserWorkloads : Bool := true
  /-- The version of the policy to simulate. -/
  policyVersion : String := "latest"
  notes : Option String := none
  deriving DecidableEq, Repr

namespace Config

def supportedSchema : String := "1.0.0"

def maxWorkers : UInt64 := 64

def default : Config := { schemaVersion := supportedSchema }

instance : Inhabited Config := ⟨default⟩

def toJson (c : Config) : Json :=
  .record [Json.field "schema_version" (.string c.schemaVersion),
    Json.field "workers" (.int c.workers.toNat),
    Json.field "field_manager" (.string c.fieldManager),
    Json.field "attribute_user_workloads" (.bool c.attributeUserWorkloads),
    Json.field "pod_security_version" (.string c.policyVersion),
    Json.field "notes" (.ofOption .string c.notes)]

def fields : Fields Config :=
  Config.mk <$> .required "schema_version" Reader.string
    <*> .withDefault "workers" default.workers Reader.uint64
    <*> .withDefault "field_manager" default.fieldManager Reader.string
    <*> .withDefault "attribute_user_workloads" default.attributeUserWorkloads Reader.bool
    <*> .withDefault "pod_security_version" default.policyVersion Reader.string
    <*> .optional "notes" Reader.string

def reader : Reader Config := fields.reader

def parse (text : String) : Except ReadError Config := Json.readText reader text

/-- A rule that a configuration breaks. -/
inductive Violation where
  | invalidValue (field reason : String)
  | versionMismatch (expected actual : String)
  deriving DecidableEq, Repr

namespace Violation

def code : Violation → Nat
  | invalidValue .. => 65
  | versionMismatch .. => 66

def message : Violation → String
  | invalidValue field reason => s!"Invalid value for {field}: {reason}"
  | versionMismatch expected actual => s!"Version mismatch: expected {expected}, got {actual}"

end Violation

/-- A version is `latest`, or `v1.` and at least one digit. -/
def isPolicyVersion (s : String) : Bool :=
  s = "latest" ||
    match s.toList with
    | 'v' :: '1' :: '.' :: minor => !minor.isEmpty && minor.all Char.isDigit
    | _ => false

def validate (c : Config) : Except Violation Unit :=
  if c.schemaVersion ≠ supportedSchema then
    .error (.versionMismatch supportedSchema c.schemaVersion)
  else if c.workers = 0 || maxWorkers < c.workers then
    .error (.invalidValue "workers" s!"must be between 1 and {maxWorkers}, got {c.workers}")
  else if (Text.trim c.fieldManager.toList).isEmpty then
    .error (.invalidValue "field_manager" "must not be empty")
  else if c.fieldManager.toList.any Text.isBlank then
    .error (.invalidValue "field_manager" "must not contain whitespace")
  else if !isPolicyVersion c.policyVersion then
    .error (.invalidValue "pod_security_version"
      ("expected \"latest\" or \"v1.<minor>\", got " ++ quote c.policyVersion))
  else .ok ()

end Config

end AdmissionForecast
