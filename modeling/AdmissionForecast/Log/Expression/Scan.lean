import AdmissionForecast.Log.Expression.Class
import AdmissionForecast.Text.Alphanumeric

/-! # Reading regular expressions

An expression is read from left to right, part by part, with the groups that are open on a stack.
It is accepted if every part is allowed under the flags where it stands, every repetition has
something to repeat, every group is closed and its tree is not too high.
-/

namespace AdmissionForecast.Log.Expression

/-- What an opening parenthesis begins: a change of flags, or a group. -/
inductive GroupStart where
  | setting (flags : Flags)
  | group (flags : Flags) (name : Option (List Char))
  deriving DecidableEq, Repr

/-- Reads flags up to a parenthesis or a colon. The letters before are given, last first. -/
def flags? (f : Flags) (seen : List Char) : List Char → Option (GroupStart × List Char)
  | [] => none
  | ')' :: rest =>
    if seen.isEmpty || seen.head? = some '-' then none else some (.setting f, rest)
  | ':' :: rest => if seen.head? = some '-' then none else some (.group f none, rest)
  | c :: rest =>
    if seen.contains c || !Flags.letters.contains c then none
    else flags? (f.set c !seen.contains '-') (c :: seen) rest

def isNameStart (c : Char) : Bool := c = '_' || Text.isAlphabetic c

def isNamePart (c : Char) : Bool :=
  ['_', '.', '[', ']'].contains c || Text.isAlphanumeric c

/-- Reads the name of a group up to its closing angle. -/
def name? (f : Flags) (cs : List Char) : Option (GroupStart × List Char) :=
  let name := cs.takeWhile (· ≠ '>')
  match cs.dropWhile (· ≠ '>') with
  | _ :: rest =>
    if name.head?.any isNameStart && name.all isNamePart then some (.group f (some name), rest)
    else none
  | [] => none

def groupStart? (f : Flags) (cs : List Char) : Option (GroupStart × List Char) :=
  match f.skip cs with
  | '?' :: 'P' :: '<' :: rest => name? f rest
  | '?' :: '<' :: rest => name? f rest
  | '?' :: rest => flags? f [] rest
  | cs => some (.group f none, cs)

/-- The content of a group so far. -/
structure Content where
  /-- The heights of the parts since the last bar, last first; a change of flags has none. -/
  parts : List (Option Nat) := []
  /-- The heights of the alternatives before. -/
  alternatives : List Nat := []
  deriving DecidableEq, Repr

namespace Content

def partsHeight (c : Content) : Nat := joinHeight (c.parts.map (·.getD 0))

def height (c : Content) : Nat := joinHeight (c.partsHeight :: c.alternatives)

def add (c : Content) (part : Option Nat) : Content := { c with parts := part :: c.parts }

def branch (c : Content) : Content := ⟨[], c.partsHeight :: c.alternatives⟩

end Content

structure Scan where
  flags : Flags := {}
  content : Content := {}
  /-- The flags and the content around each open group, the innermost first. -/
  outer : List (Flags × Content) := []
  /-- The names of groups so far. -/
  names : List (List Char) := []
  deriving DecidableEq, Repr

namespace Scan

def add (s : Scan) (part : Option Nat) : Scan := { s with content := s.content.add part }

def openGroup? (s : Scan) : GroupStart → Option Scan
  | .setting flags => some { s.add none with flags }
  | .group flags name =>
    if name.any s.names.contains then none
    else some ⟨flags, {}, (s.flags, s.content) :: s.outer, name.toList ++ s.names⟩

def closeGroup? (s : Scan) : Option Scan :=
  match s.outer with
  | [] => none
  | (flags, content) :: outer =>
    some { s with flags, outer, content := content.add (some (1 + s.content.height)) }

def repeat? (s : Scan) : Option Scan :=
  match s.content.parts with
  | some h :: parts => some { s with content := { s.content with parts := some (1 + h) :: parts } }
  | _ => none

def primitive? (s : Scan) (p : Primitive) : Option Scan :=
  if p.isAllowed s.flags then some (s.add (some 0)) else none

/-- Reads the part that begins with a character. -/
def part? (s : Scan) (c : Char) (rest : List Char) : Option (Scan × List Char) :=
  match c with
  | '(' => do
    let (start, rest) ← groupStart? s.flags rest
    return (← s.openGroup? start, rest)
  | ')' => s.closeGroup?.map (·, rest)
  | '|' => some ({ s with content := s.content.branch }, rest)
  | '[' => (Class.read? s.flags rest).map fun (h, rest) => (s.add (some h), rest)
  | '*' | '+' | '?' =>
    let rest := match rest with
      | '?' :: rest => rest
      | rest => rest
    s.repeat?.map (·, rest)
  | '\x7b' => none
  | '\\' => do
    let (p, rest) ← escape? s.flags rest
    return (← s.primitive? p, rest)
  | '.' => (s.primitive? .anyCharacter).map (·, rest)
  | '^' | '$' => (s.primitive? .position).map (·, rest)
  | c => (s.primitive? (.literal c false)).map (·, rest)

def run? : Nat → Scan → List Char → Option Scan
  | 0, _, _ => none
  | fuel + 1, s, cs =>
    match s.flags.skip cs with
    | [] => some s
    | c :: rest => (s.part? c rest).bind fun (s, rest) => run? fuel s rest

end Scan

def maxHeight : Nat := 250

/-- Whether a text is an expression that can be compiled. Every part has a character at least, so
the fuel lasts. -/
def isExpression (cs : List Char) : Bool :=
  match Scan.run? (cs.length + 1) {} cs with
  | some s => s.outer.isEmpty && s.content.height ≤ maxHeight
  | none => false

end AdmissionForecast.Log.Expression
