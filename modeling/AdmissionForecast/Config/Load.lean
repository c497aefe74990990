import AdmissionForecast.Config.Basic
import AdmissionForecast.Config.Source
import AdmissionForecast.Digest.Sha256
import AdmissionForecast.Time.Timestamp

/-! # Loading the configuration

The file that is found is read, decoded and checked, and what was loaded is recorded, so that
a report can be traced to the very file it came from.
-/

namespace AdmissionForecast

inductive ConfigError where
  | unreadable (path : String) (cause : FileError)
  | notJson (path : String)
  | invalid (cause : Config.Violation)
  deriving DecidableEq, Repr

/-- What stands in messages in place of the details of a JSON error. -/
def jsonErrorText : String := "<json>"

def ConfigError.message : ConfigError → String
  | unreadable path cause => s!"I/O error reading {path}: {cause.message}"
  | notJson path => s!"Invalid JSON in config file {path}: {jsonErrorText}"
  | invalid cause => s!"Semantic validation failed: {cause.message}"

/-- A configuration with where it was found and the text of its file. -/
structure LoadedConfig where
  config : Config
  found : Option ConfigCandidate
  content : Option String
  deriving DecidableEq, Repr

namespace LoadedConfig

def source (l : LoadedConfig) : ConfigSource :=
  match l.found with
  | some c => c.source
  | none => .builtIn

def toJson (l : LoadedConfig) : Json :=
  .record [Json.field "schema_version" (.string l.config.schemaVersion),
    Json.field "config_path" (.ofOption (.string ·.path) l.found),
    Json.field "config_source" (.string l.source.text),
    Json.field "config_hash" (.ofOption (fun s => .string (Sha256.hexDigest s)) l.content),
    Json.field "workers" (.int l.config.workers.toNat),
    Json.field "field_manager" (.string l.config.fieldManager),
    Json.field "attribute_user_workloads" (.bool l.config.attributeUserWorkloads),
    Json.field "pod_security_version" (.string l.config.policyVersion)]

def toJsonAt (l : LoadedConfig) (now : String) : Json :=
  match l.toJson with
  | .object members => .object (("timestamp", .string now) :: members)
  | j => j

/-- Decodes and checks the text of a file. -/
def ofContent (c : ConfigCandidate) (text : String) : Except ConfigError LoadedConfig := do
  let config ← (Config.parse text).mapError fun _ => .notJson c.path
  config.validate.mapError .invalid
  return ⟨config, some c, some text⟩

/-- The defaults, for when there is no file. -/
def builtIn : LoadedConfig := ⟨.default, none, none⟩

/-- Loads the first of some candidates that exists. -/
def loadFirst {m : Type → Type} [Monad m] (storage : Storage m) (cs : List ConfigCandidate) :
    m (Except ConfigError LoadedConfig) := do
  match ← ConfigCandidate.firstExisting storage cs with
  | none => return .ok builtIn
  | some c =>
    match ← storage.read c.path with
    | .error e => return .error (.unreadable c.path e)
    | .ok text => return ofContent c text

def load {m : Type → Type} [Monad m] (storage : Storage m) (env : Environment)
    (cliPath : Option String) : m (Except ConfigError LoadedConfig) :=
  loadFirst storage (ConfigCandidate.all cliPath env)

end LoadedConfig

end AdmissionForecast
