import AdmissionForecast.Log.Expression.Primitive

/-! # Classes of characters

The classes in brackets of a regular expression: characters, ranges, named classes and nested
classes, combined by `&&`, `--` and `~~`. Reading a class gives how high its tree is.
-/

namespace AdmissionForecast.Log.Expression

/-- The height of a tree over parts of some heights; a single part needs no tree over it. -/
def joinHeight : List Nat → Nat
  | [] => 0
  | [h] => h
  | hs => 1 + hs.foldl max 0

namespace Class

def names : List String :=
  ["alnum", "alpha", "ascii", "blank", "cntrl", "digit", "graph", "lower", "print", "punct",
    "space", "upper", "word", "xdigit"]

/-- Reads `:name:]` or `:^name:]`; gives whether it is negated. -/
def named? : List Char → Option (Bool × List Char)
  | ':' :: cs =>
    let (negated, cs) := match cs with
      | '^' :: rest => (true, rest)
      | _ => (false, cs)
    match cs.dropWhile (· ≠ ':') with
    | ':' :: ']' :: rest =>
      if names.contains (String.ofList (cs.takeWhile (· ≠ ':'))) then some (negated, rest)
      else none
    | _ => none
  | _ => none

def item? (f : Flags) : List Char → Option (Primitive × List Char)
  | [] => none
  | '\\' :: rest => escape? f rest
  | c :: rest => some (.literal c false, rest)

/-- The character that decides whether a minus sign makes a range. A comment hides only the sign
that begins it. -/
def following? (f : Flags) (cs : List Char) : Option Char :=
  if f.spaced then
    match cs.dropWhile Text.isBlank with
    | '#' :: rest => (rest.dropWhile Text.isBlank).head?.or cs.head?
    | rest => rest.head?.or cs.head?
  else cs.head?

/-- Reads one member or a range of them. A minus sign before a bracket or another minus sign makes
no range. -/
def range? (f : Flags) (cs : List Char) : Option (List Char) := do
  let (first, cs) ← item? f cs
  let cs := f.skip cs
  let single := if first.isAllowedInClass f && !cs.isEmpty then some cs else none
  match cs with
  | '-' :: rest =>
    if (following? f rest).any [']', '-'].contains then single
    else
      let (last, cs) ← item? f (f.skip rest)
      match first, last with
      | .literal a _, .literal b _ =>
        if a ≤ b && first.isAllowedInClass f && last.isAllowedInClass f then some cs else none
      | _, _ => none
  | _ => single

/-- Reads the minus signs at the start of a class; gives how many there are. -/
def leadingSigns (f : Flags) : Nat → List Char → Nat × List Char
  | 0, cs => (0, cs)
  | fuel + 1, '-' :: rest =>
    let (n, cs) := leadingSigns f fuel (f.skip rest)
    (n + 1, cs)
  | _, cs => (0, cs)

/-- Reads the start of a class after its bracket: a negation, and then either minus signs or a
closing bracket that stands for themselves. Gives the heights of these members. -/
def open? (f : Flags) (cs : List Char) : Option (List Nat × List Char) :=
  let (negated, cs) := match f.skip cs with
    | '^' :: rest => (true, f.skip rest)
    | cs => (false, cs)
  let (signs, cs) := leadingSigns f cs.length cs
  let (members, cs) := match signs, cs with
    | 0, ']' :: rest => (1, f.skip rest)
    | n, cs => (n, cs)
  let allowed := members = 0 || (Primitive.literal '-' false).isAllowedInClass f
  if cs.isEmpty || !allowed || (negated && !f.unicode) then none
  else some (List.replicate members 0, cs)

/-- What is unfinished around the current members. -/
inductive Frame where
  /-- A bracket, after other members of the class around it. -/
  | opened (siblings : List Nat)
  /-- The left side of an operator. -/
  | combined (left : Nat)
  deriving DecidableEq, Repr

/-- Finishes the operator that has its right side now. -/
def combine (right : Nat) : List Frame → Nat × List Frame
  | .combined left :: frames => (1 + max left right, frames)
  | frames => (right, frames)

/-- Reads members up to the bracket that closes the outermost class. -/
def body? (f : Flags) : Nat → List Frame → List Nat → List Char → Option (Nat × List Char)
  | 0, _, _, _ => none
  | fuel + 1, frames, members, cs =>
    let operator (rest : List Char) : Option (Nat × List Char) :=
      let (left, frames) := combine (joinHeight members) frames
      body? f fuel (.combined left :: frames) [] rest
    match f.skip cs with
    | '[' :: rest =>
      match named? rest with
      | some (negated, rest) =>
        if if f.unicode then !f.insensitive else !negated then
          body? f fuel frames (0 :: members) rest
        else none
      | none =>
        (open? f rest).bind fun (inner, rest) =>
          body? f fuel (.opened members :: frames) inner rest
    | ']' :: rest =>
      match combine (joinHeight members) frames with
      | (h, [.opened _]) => some (1 + h, rest)
      | (h, .opened siblings :: frames) => body? f fuel frames ((1 + h) :: siblings) rest
      | _ => none
    | '&' :: '&' :: rest => operator rest
    | '-' :: '-' :: rest => operator rest
    | '~' :: '~' :: rest => operator rest
    | cs => (range? f cs).bind fun rest => body? f fuel frames (0 :: members) rest

def read? (f : Flags) (cs : List Char) : Option (Nat × List Char) :=
  (open? f cs).bind fun (members, cs) => body? f (cs.length + 1) [.opened []] members cs

end Class

end AdmissionForecast.Log.Expression
