import AdmissionForecast.Log.Config
import AdmissionForecast.Log.Pattern
import AdmissionForecast.Text.Alphanumeric

/-! # Filters of the log

A filter is a list of directives. Each lets the events of some targets through down to a
severity, or only those of them that have a certain field. Of the directives for an event the one
with the longest target decides.
-/

namespace AdmissionForecast.Log

/-- Lets through what comes from targets that start so, has the field if one is named, and is at
least so severe; the severity `none` lets nothing through. -/
structure Directive where
  target : String
  field : Option String
  least : Option Severity
  deriving DecidableEq, Repr

namespace Directive

/-- Whether the directive is about an event. -/
def covers (d : Directive) (e : Event) : Bool :=
  d.target.toList.isPrefixOf e.component.target.toList && d.field.all e.hasField

/-- Whether a later directive about the same event takes precedence: it does with a longer target,
then with a field where there was none, then with a field that is not smaller. -/
def yieldsTo (d later : Directive) : Bool :=
  if d.target.length = later.target.length then
    match d.field, later.field with
    | none, _ => true
    | some _, none => false
    | some a, some b => !decide (b < a)
  else d.target.length < later.target.length

end Directive

abbrev Filter := List Directive

namespace Filter

def number? (cs : List Char) : Option Nat :=
  let ds := match cs with
    | '+' :: ds => ds
    | ds => ds
  if ds.isEmpty || !ds.all Char.isDigit then none else (String.ofList ds).toNat?

/-- The least severity that a word names, by name in any case or by number. -/
def least? (cs : List Char) : Option (Option Severity) :=
  match number? cs with
  | some 0 => some none
  | some 1 => some (some .error)
  | some 2 => some (some .warn)
  | some 3 => some (some .info)
  | some 4 => some (some .debug)
  | some 5 => some (some .trace)
  | some _ => none
  | none =>
    match (String.ofList cs).toLower with
    | "off" => some none
    | "error" => some (some .error)
    | "warn" => some (some .warn)
    | "info" => some (some .info)
    | "debug" => some (some .debug)
    | "trace" => some (some .trace)
    | _ => none

/-- The parts of `target[span{field}]=severity`, of which only some have to be there. -/
structure Clause where
  target : List Char
  span : Option (List Char) := none
  field : Option (List Char) := none
  severity : Option (List Char) := none
  deriving DecidableEq, Repr

/-- A character that decides where a part ends, with the character that the part gets. -/
abbrev Cell := Char × Char

def cellText (cells : List Cell) : List Char := cells.map Prod.snd

/-- The text after an equals sign, up to the end and beyond it; there may be neither. -/
def severityPart? (beyond : List Char) : List Cell → Option (Option (List Char))
  | [] => some none
  | ('=', _) :: rest => some (some (cellText rest ++ beyond))
  | _ => none

/-- Reads what follows an opening bracket. -/
def bracket? (target beyond : List Char) (cells : List Cell) : Option Clause :=
  let isName (c : Cell) : Bool := c.1 ≠ ']' && c.1 ≠ '\x7b'
  let span := cellText (cells.takeWhile isName)
  match cells.dropWhile isName with
  | (']', _) :: rest =>
    (severityPart? beyond rest).map fun severity => ⟨target, some span, none, severity⟩
  | _ :: inner =>
    let field := cellText (inner.takeWhile fun c => c.1 ≠ '\x7d')
    match inner.dropWhile fun c => c.1 ≠ '\x7d' with
    | _ :: (']', _) :: rest =>
      if field.isEmpty then none
      else (severityPart? beyond rest).map fun severity =>
        ⟨target, if span.isEmpty then none else some span, some field, severity⟩
    | _ => none
  | [] => none

/-- Whether a directive may start so. -/
def isStart (c : Char) : Bool :=
  c = '[' || c = '-' || c = ':' || c = '_' || Text.isAlphanumeric c

/-- Reads the parts of a directive. Where they end is decided on the text without the blanks at
its ends, but they are cut out of the text with those blanks. So after a blank every part is
shifted by it, and the last part keeps the blanks that follow. -/
def clause? (cs : List Char) : Option Clause :=
  let body := Text.trim cs
  let beyond := cs.drop body.length
  let cells := body.zip cs
  let isTarget (c : Cell) : Bool := c.1 ≠ '=' && c.1 ≠ '['
  let target := cellText (cells.takeWhile isTarget)
  if body.head?.any isStart then
    match cells.dropWhile isTarget with
    | [] => some { target := cs }
    | ('=', _) :: rest => some { target, severity := some (cellText rest ++ beyond) }
    | _ :: rest => bracket? target beyond rest
  else none

/-- The target and the least severity. A severity may stand alone; where none is given, all are
let through. -/
def Clause.scope? (c : Clause) : Option (List Char × Option Severity) :=
  match c.severity with
  | some [] => some (c.target, some .trace)
  | some cs => (least? cs).map (c.target, ·)
  | none =>
    if c.span.isNone && c.field.isNone then
      some (((least? c.target).map ([], ·)).getD (c.target, some .trace))
    else some (c.target, some .trace)

/-- The name of a field and, after an equals sign, the value that is asked for. -/
def splitField (cs : List Char) : List Char × Option (List Char) :=
  let name := cs.takeWhile (· ≠ '=')
  match cs.dropWhile (· ≠ '=') with
  | [] => (name, none)
  | _ :: rest => (name, some (rest.takeWhile (· ≠ '=')))

/-- The directive of a clause. A clause with a span or a value speaks of spans only; the program
has none, so nothing comes of it. -/
def Clause.directive? (c : Clause) : Option (Option Directive) := do
  let (target, least) ← c.scope?
  match c.field.map splitField with
  | some (_, some value) => if Pattern.isWellFormed value then some none else none
  | field =>
    if c.span.isSome then some none
    else some (some ⟨String.ofList target, field.map fun f => String.ofList f.1, least⟩)

/-- Reads directives with commas between. Without any, only errors get through. -/
def parse? (s : String) : Option Filter :=
  let parts := (s.toList.splitOn ',').filter (!·.isEmpty)
  if parts.isEmpty then some [⟨"", none, some .error⟩]
  else (parts.mapM fun part => (clause? part).bind Clause.directive?).map (·.filterMap id)

/-- The filter for the program's own events at a severity. -/
def ofSeverity (s : Severity) : Filter := [⟨"psr_core", none, some s⟩]

/-- The directive that decides about an event; of equal ones the last. -/
def decisive? (f : Filter) (e : Event) : Option Directive :=
  f.foldl (fun best d =>
    if d.covers e && best.all (·.yieldsTo d) then some d else best) none

def allows (f : Filter) (e : Event) : Bool :=
  match (f.decisive? e).bind (·.least) with
  | some least => least.rank ≤ e.severity.rank
  | none => false

/-- The filter of an invocation: the environment's if it can be read, else by the settings. -/
def ofEnvironment (env : String → Option String) (c : Config) : Filter :=
  ((env "RUST_LOG").bind parse?).getD (ofSeverity c.severity)

end Filter

end AdmissionForecast.Log
