import AdmissionForecast.Log.Config
import AdmissionForecast.OutputFormat

/-! # Command-line arguments

Arguments are scanned from left to right by a table of options. Options may stand before and
after the name of the command, and what is given after it counts for more.
-/

namespace AdmissionForecast.Command

inductive OptionKind where
  | flag
  /-- A flag that may be given several times. -/
  | counter
  | value (accepts : String → Bool)

structure OptionSpec where
  name : String
  short : Option Char := none
  kind : OptionKind

/-- Why arguments are not a command to run. -/
inductive Stop where
  | help
  | version
  | usage
  deriving DecidableEq, Repr

/-- The options that were given. -/
structure Given where
  values : List (String × String) := []
  flags : List String := []
  /-- An option whose value comes as an argument of its own, with that value once it came. -/
  awaited : Option (OptionSpec × Option String) := none

namespace Given

def addValue (g : Given) (o : OptionSpec) (accepts : String → Bool) (v : String) :
    Except Stop Given :=
  if accepts v && !g.values.any (fun p => p.1 = o.name) then
    .ok { g with values := (o.name, v) :: g.values }
  else .error .usage

/-- Takes in the option that was awaited; it needs a value by now. -/
def settle (g : Given) : Except Stop Given :=
  match g.awaited with
  | none => .ok g
  | some (o, some v) =>
    match o.kind with
    | .value accepts => ({ g with awaited := none }).addValue o accepts v
    | _ => .error .usage
  | some (_, none) => .error .usage

/-- Takes in an option, which may have a value attached to it. -/
def addOption (g : Given) (o : OptionSpec) (attached : Option String) : Except Stop Given :=
  match o.kind, attached with
  | .flag, none =>
    if g.flags.contains o.name then .error .usage else .ok { g with flags := o.name :: g.flags }
  | .counter, none => .ok { g with flags := o.name :: g.flags }
  | .value accepts, some v => g.addValue o accepts v
  | .value _, none => .ok { g with awaited := some (o, none) }
  | _, some _ => .error .usage

end Given

/-- Takes in an option with two hyphens. -/
def addLong (options : List OptionSpec) (g : Given) (text : List Char) : Except Stop Given := do
  let g ← g.settle
  let name := String.ofList (text.takeWhile (· ≠ '='))
  let attached := match text.dropWhile (· ≠ '=') with
    | _ :: v => some (String.ofList v)
    | [] => none
  match options.find? fun o => o.name = name with
  | some o => g.addOption o attached
  | none =>
    if name = "help" && attached.isNone then throw .help
    else if name = "version" && attached.isNone then throw .version
    else throw .usage

/-- Takes in the letters after one hyphen; the first option with a value takes the rest. -/
def addLetters (options : List OptionSpec) (g : Given) : List Char → Except Stop Given
  | [] => .ok g
  | c :: rest =>
    match options.find? fun o => o.short = some c with
    | none => .error (if c = 'h' then .help else if c = 'V' then .version else .usage)
    | some o =>
      match o.kind with
      | .value _ =>
        match rest with
        | [] => g.addOption o none
        | '=' :: v => g.addOption o (some (String.ofList v))
        | v => g.addOption o (some (String.ofList v))
      | _ =>
        match g.addOption o none with
        | .ok g => addLetters options g rest
        | .error e => .error e

/-- An argument by how it begins. -/
inductive Shape where
  | end
  | long (text : List Char)
  | letters (text : List Char)
  | word

def Shape.of (arg : String) : Shape :=
  match arg.toList with
  | ['-', '-'] => .end
  | '-' :: '-' :: text => .long text
  | ['-'] => .word
  | '-' :: text => .letters text
  | _ => .word

/-- Scans options up to the first word that is not the value of one, and gives what was found,
that word and the arguments after it. -/
def scan (options : List OptionSpec) (g : Given) :
    List String → Except Stop (Given × Option (String × List String))
  | [] => .ok (g, none)
  | arg :: rest =>
    match Shape.of arg with
    | .end => if rest.isEmpty then .ok (g, none) else .error .usage
    | .long text =>
      match addLong options g text with
      | .ok g => scan options g rest
      | .error e => .error e
    | .letters text =>
      match g.settle.bind fun g => addLetters options g text with
      | .ok g => scan options g rest
      | .error e => .error e
    | .word =>
      match g.awaited with
      | some (o, none) => scan options { g with awaited := some (o, some arg) } rest
      | _ => .ok (g, some (arg, rest))

def isGiven (v : String) : Bool := v ≠ ""

def globalOptions : List OptionSpec :=
  [{ name := "config", kind := .value isGiven },
    { name := "format", short := some 'f', kind := .value fun v => (OutputFormat.ofName? v).isSome },
    { name := "log-format", kind := .value fun v => (Log.Format.ofName? v).isSome },
    { name := "verbose", short := some 'v', kind := .counter },
    { name := "quiet", short := some 'q', kind := .flag }]

inductive CommandName where
  | evaluate
  | resolve
  | check
  deriving DecidableEq, Repr

namespace CommandName

def text : CommandName → String
  | evaluate => "evaluate"
  | resolve => "resolve"
  | check => "check"

def ofText? : String → Option CommandName
  | "evaluate" => some evaluate
  | "resolve" => some resolve
  | "check" => some check
  | _ => none

def options : CommandName → List OptionSpec
  | evaluate =>
    [{ name := "snapshot", kind := .value isGiven }, { name := "status", kind := .value isGiven },
      { name := "write-status", kind := .value isGiven }]
  | resolve =>
    [{ name := "snapshot", kind := .value isGiven },
      { name := "namespace", kind := .value fun _ => true }]
  | check => []

end CommandName

inductive Task where
  | evaluate (snapshot : String) (status writeStatus : Option String)
  | resolve (snapshot : String) (only : Option String)
  | check
  deriving DecidableEq, Repr

/-- Everything that the arguments of a run say. -/
structure Invocation where
  task : Task
  configPath : Option String
  format : OutputFormat
  logFormat : Option Log.Format
  logSeverity : Option Log.Severity
  deriving DecidableEq, Repr

inductive Arguments where
  | run (invocation : Invocation)
  | help
  /-- Asks for the version, of a command if one was named. -/
  | version (command : Option CommandName)
  | usage
  deriving DecidableEq, Repr

/-- The least severity to log: errors only if quiet, else more with each `-v`. -/
def logSeverity? (quiet : Bool) (verbosity : Nat) : Option Log.Severity :=
  if quiet then some .error
  else match verbosity with
    | 0 => none
    | 1 => some .debug
    | _ => some .trace

/-- A value that was given after the name of the command, or else before it. -/
def value? (before after : Given) (name : String) : Option String :=
  (after.values.lookup name).or (before.values.lookup name)

/-- The task of a command; most need a snapshot. -/
def task? (before after : Given) : CommandName → Option Task
  | .evaluate => (value? before after "snapshot").map fun s =>
      .evaluate s (value? before after "status") (value? before after "write-status")
  | .resolve => (value? before after "snapshot").map fun s =>
      .resolve s (value? before after "namespace")
  | .check => some .check

def invocation? (before after : Given) (c : CommandName) : Option Invocation := do
  let task ← task? before after c
  let countV (g : Given) := g.flags.count "verbose"
  let verbosity := if 0 < countV after then countV after else countV before
  let quiet := before.flags.contains "quiet" || after.flags.contains "quiet"
  some {
    task
    configPath := value? before after "config"
    format := ((value? before after "format").bind OutputFormat.ofName?).getD .json
    logFormat := (value? before after "log-format").bind Log.Format.ofName?
    logSeverity := logSeverity? quiet verbosity }

def parseCommand (before : Given) (c : CommandName) (args : List String) : Arguments :=
  match scan (globalOptions ++ c.options) {} args with
  | .error .help => .help
  | .error .version => .version (some c)
  | .error .usage | .ok (_, some _) => .usage
  | .ok (after, none) =>
    match after.settle, before.settle with
    | .ok after, .ok before => ((invocation? before after c).map .run).getD .usage
    | _, _ => .usage

/-- The arguments of the word `help`: nothing, or one command. -/
def parseHelp : List String → Arguments
  | [] => .help
  | [name] => if name = "help" || (CommandName.ofText? name).isSome then .help else .usage
  | _ => .usage

def parse (args : List String) : Arguments :=
  match scan globalOptions {} args with
  | .error .help => .help
  | .error .version => .version none
  | .error .usage | .ok (_, none) => .usage
  | .ok (before, some (word, rest)) =>
    if word = "help" then parseHelp rest
    else match CommandName.ofText? word with
      | some c => parseCommand before c rest
      | none => .usage

end AdmissionForecast.Command
