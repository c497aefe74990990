import AdmissionForecast.Storage

/-! # Where the configuration comes from

The candidates for the configuration file in order: the command line, two environment
variables, the user's configuration directory, and the system's. The first one that exists is
used; without any, the defaults are.
-/

namespace AdmissionForecast

abbrev Environment := String → Option String

inductive ConfigSource where
  | commandLine
  | environment
  | userDirectory
  | systemDirectory
  | builtIn
  deriving DecidableEq, Repr

def ConfigSource.text : ConfigSource → String
  | commandLine => "CLI argument"
  | environment => "environment variable"
  | userDirectory => "XDG config"
  | systemDirectory => "system config"
  | builtIn => "builtin default"

structure ConfigCandidate where
  path : String
  source : ConfigSource
  deriving DecidableEq, Repr

namespace ConfigCandidate

def fileName : String := "config.json"

/-- The name of the program's directory below configuration directories. -/
def directoryName : String := "pod-security-readiness"

def systemDirectory : String := "/etc"

/-- The directory for the user's configuration: the one that is named in the environment if
it is absolute, else the usual one below the home directory. This is the one that `HOME` names:
where it is unset or empty, the system's list of users would be asked, which is left out here, so
there is no directory. -/
def userDirectory? (env : Environment) : Option String :=
  match (env "XDG_CONFIG_HOME").filter Path.isAbsolute with
  | some dir => some dir
  | none => ((env "HOME").filter (· ≠ "")).map fun home => Path.join home ".config"

def inDirectory (dir : String) : String := Path.join (Path.join dir directoryName) fileName

/-- The candidates in order, with the directory for the user's configuration. -/
def among (cliPath : Option String) (env : Environment) (userDirectory : Option String) :
    List ConfigCandidate :=
  (cliPath.map (⟨·, .commandLine⟩)).toList ++
    ((env "PSR_CONFIG").map (⟨·, .environment⟩)).toList ++
    ((env "PSR_CONFIG_DIR").map fun dir => ⟨Path.join dir fileName, .environment⟩).toList ++
    (userDirectory.map fun dir => ⟨inDirectory dir, .userDirectory⟩).toList ++
    [⟨inDirectory systemDirectory, .systemDirectory⟩]

def all (cliPath : Option String) (env : Environment) : List ConfigCandidate :=
  among cliPath env (userDirectory? env)

/-- The first candidate that exists. -/
def firstExisting {m : Type → Type} [Monad m] (storage : Storage m) :
    List ConfigCandidate → m (Option ConfigCandidate)
  | [] => pure none
  | c :: rest => do
    if ← storage.exists? c.path then pure (some c) else firstExisting storage rest

end ConfigCandidate

end AdmissionForecast
