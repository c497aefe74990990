import AdmissionForecast.Text.Blank
import AdmissionForecast.Text.Hex

/-! # Primitives of regular expressions

The smallest parts of an expression and the escapes that write them. There are no tables of the
properties of characters to compile an expression with. So a class like `\d` is refused unless it
means ASCII only, and under the flag for Unicode nothing can be matched in either case. Under the
opposite flag nothing may match a byte that is not ASCII by itself.
-/

namespace AdmissionForecast.Log.Expression

/-- The flags that decide whether an expression is accepted. -/
structure Flags where
  /-- Letters match in either case. -/
  insensitive : Bool := false
  unicode : Bool := true
  /-- Blanks and comments between the parts do not count. -/
  spaced : Bool := false
  deriving DecidableEq, Repr

namespace Flags

/-- The letters of the flags; the minus sign turns off the flags after it. -/
def letters : List Char := ['i', 'm', 's', 'U', 'u', 'R', 'x', '-']

def set (f : Flags) (letter : Char) (value : Bool) : Flags :=
  match letter with
  | 'i' => { f with insensitive := value }
  | 'u' => { f with unicode := value }
  | 'x' => { f with spaced := value }
  | _ => f

end Flags

/-- The text from the first character that counts, where blanks and comments do not. -/
def dropSpace (inComment : Bool) : List Char → List Char
  | [] => []
  | c :: rest =>
    if inComment then dropSpace (c ≠ '\n') rest
    else if Text.isBlank c then dropSpace false rest
    else if c = '#' then dropSpace true rest
    else c :: rest

def Flags.skip (f : Flags) (cs : List Char) : List Char :=
  if f.spaced then dropSpace false cs else cs

inductive Primitive where
  /-- A character, and whether it is written as a byte in two hexadecimal digits. -/
  | literal (c : Char) (isByte : Bool)
  /-- A class of one letter, as `\w` and its opposite `\W`. -/
  | letterClass (negated : Bool)
  | anyCharacter
  /-- A place in the text or on a line. -/
  | position
  | wordBoundary
  deriving DecidableEq, Repr

namespace Primitive

def isAllowed (f : Flags) : Primitive → Bool
  | literal c isByte => if f.unicode then !f.insensitive else !(isByte && 0x80 ≤ c.toNat)
  | letterClass negated => !f.unicode && !negated
  | anyCharacter => f.unicode
  | position => true
  | wordBoundary => !f.unicode

def isAllowedInClass (f : Flags) : Primitive → Bool
  | literal c _ => if f.unicode then !f.insensitive else c.toNat < 0x80
  | letterClass negated => !f.unicode && !negated
  | _ => false

end Primitive

/-- Reads so many hexadecimal digits, to be added to a value. -/
def hexDigits? (f : Flags) (value : Nat) : Nat → List Char → Option (Nat × List Char)
  | 0, cs => some (value, f.skip cs)
  | n + 1, cs =>
    match f.skip cs with
    | [] => none
    | c :: rest => (Text.hexValue? c).bind fun d => hexDigits? f (16 * value + d) n rest

def hexLiteral? (f : Flags) (digits : Nat) (cs : List Char) : Option (Primitive × List Char) :=
  (hexDigits? f 0 digits cs).bind fun (n, rest) =>
    if n < 0xd800 || (0xdfff < n && n < 0x110000) then
      some (.literal (Char.ofNat n) (digits = 2), rest)
    else none

def controlOf? : Char → Option Char
  | 'a' => some '\x07'
  | 't' => some '\t'
  | 'n' => some '\n'
  | 'v' => some '\x0b'
  | 'f' => some '\x0c'
  | 'r' => some '\r'
  | _ => none

/-- Whether a backslash leaves the character what it is. -/
def isPlainEscape (c : Char) : Bool :=
  c.toNat < 0x80 && !c.isAlphanum && c ≠ '<' && c ≠ '>'

/-- Reads what follows a backslash. -/
def escape? (f : Flags) : List Char → Option (Primitive × List Char)
  | [] => none
  | c :: rest =>
    if c = 'x' then hexLiteral? f 2 rest
    else if c = 'u' then hexLiteral? f 4 rest
    else if c = 'U' then hexLiteral? f 8 rest
    else if ['d', 's', 'w'].contains c then some (.letterClass false, rest)
    else if ['D', 'S', 'W'].contains c then some (.letterClass true, rest)
    else if ['A', 'z'].contains c then some (.position, rest)
    else if ['b', 'B', '<', '>'].contains c then some (.wordBoundary, rest)
    else if isPlainEscape c then some (.literal c false, rest)
    else (controlOf? c).map fun c => (.literal c false, rest)

end AdmissionForecast.Log.Expression
