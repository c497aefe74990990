import AdmissionForecast.Json.Basic

/-! # JSON numbers

A number is read as an integer if it is written as one and fits 64 bits. Any other number has to
have a double: its first digits make a significand of at most 64 bits, which is rounded and then
multiplied by a rounded power of ten. A number may be out of range for that product although the
number itself is below the greatest double.
-/

namespace AdmissionForecast.Json.Number

/-- The parts of a number as written. -/
structure Parts where
  negative : Bool
  whole : List Char
  fraction : Option (List Char)
  exponent : Option (List Char)

def digitValue (c : Char) : Nat := c.toNat - '0'.toNat

def natOfDigits (ds : List Char) : Nat :=
  ds.foldl (fun n c => 10 * n + digitValue c) 0

def splitSign : List Char → Bool × List Char
  | '-' :: rest => (true, rest)
  | cs => (false, cs)

/-- No leading zeros, and at least one digit. -/
def isWhole : List Char → Bool
  | [] => false
  | ['0'] => true
  | c :: _ => c ≠ '0'

/-- Reads `-? whole (. digits)? ([eE] [+-]? digits)?`. -/
def parts? (cs : List Char) : Option Parts :=
  let (negative, cs) := splitSign cs
  let whole := cs.takeWhile Char.isDigit
  let cs := cs.dropWhile Char.isDigit
  let (fraction, cs) := match cs with
    | '.' :: rest => (some (rest.takeWhile Char.isDigit), rest.dropWhile Char.isDigit)
    | _ => (none, cs)
  let (exponent, cs) := match cs with
    | 'e' :: rest | 'E' :: rest =>
      match rest with
      | '+' :: ds => (some (ds.takeWhile Char.isDigit), ds.dropWhile Char.isDigit)
      | '-' :: ds => (some ('-' :: ds.takeWhile Char.isDigit), ds.dropWhile Char.isDigit)
      | ds => (some (ds.takeWhile Char.isDigit), ds.dropWhile Char.isDigit)
    | _ => (none, cs)
  if isWhole whole && fraction != some [] && exponent != some [] && exponent != some ['-'] &&
      cs.isEmpty
  then some ⟨negative, whole, fraction, exponent⟩ else none

/-- The integer that the parts write without fraction and exponent, if it fits 64 bits. The
literal `-0` is no integer. -/
def Parts.integer? (p : Parts) : Option Int :=
  let n := natOfDigits p.whole
  if p.fraction.isSome || p.exponent.isSome then none
  else if p.negative then
    if 0 < n && n ≤ Nat.pow 2 63 then some (-n) else none
  else if n < Nat.pow 2 64 then some n else none

/-- Adds digits to a significand as long as it fits 64 bits; gives the digits that are left. -/
def takeDigits (significand : Nat) : List Char → Nat × List Char
  | [] => (significand, [])
  | d :: ds =>
    let next := 10 * significand + digitValue d
    if next < Nat.pow 2 64 then takeDigits next ds else (significand, d :: ds)

def Parts.exponentValue (p : Parts) : Int :=
  match p.exponent with
  | some ('-' :: ds) => -natOfDigits ds
  | some ds => natOfDigits ds
  | none => 0

/-- The significand and the power of ten. A digit before the point that is left over counts as a
zero, one after the point does not count. -/
def Parts.scaled (p : Parts) : Nat × Int :=
  let fraction := p.fraction.getD []
  let (upper, uncounted) := takeDigits 0 p.whole
  let (significand, dropped) := takeDigits upper fraction
  (significand, uncounted.length - (fraction.length - dropped.length : Int) + p.exponentValue)

/-- The number with a significand of 53 bits that is nearest to `n`; between two equally near
ones, the one whose significand is even. -/
def nearestDouble (n : Nat) : Nat :=
  let surplus := n.log2 + 1 - 53
  if surplus = 0 then n
  else
    let half := Nat.pow 2 (surplus - 1)
    let low := n / Nat.pow 2 surplus
    let rest := n % Nat.pow 2 surplus
    let rounded := if half < rest || (rest = half && low % 2 = 1) then low + 1 else low
    rounded * Nat.pow 2 surplus

/-- The least magnitude that rounds to no double: halfway from the greatest one to 2^1024. -/
def doubleLimit : Nat := Nat.pow 2 1024 - Nat.pow 2 970

/-- The greatest exponent of a power of ten that is below the limit. -/
def maxPowerOfTen : Nat := 308

/-- Whether `significand · 10^exponent` is out of range. A negative exponent only makes a number
smaller. -/
def outOfRange (significand : Nat) : Int → Bool
  | .negSucc _ => false
  | .ofNat k =>
    if significand = 0 then false
    else if maxPowerOfTen < k then true
    else doubleLimit ≤ nearestDouble significand * nearestDouble (Nat.pow 10 k)

def toJson (literal : List Char) (p : Parts) : Json :=
  match p.integer? with
  | some n => .int n
  | none =>
    let (significand, exponent) := p.scaled
    if outOfRange significand exponent then .unreadable else .real (String.ofList literal)

end AdmissionForecast.Json.Number
