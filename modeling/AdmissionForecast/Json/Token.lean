import AdmissionForecast.Json.Number
import AdmissionForecast.Text.Hex

/-! # JSON tokens

The text of a document is cut into tokens in one pass over its characters. A number or a
string that is well-formed but holds no value becomes a token all the same, since a value
that is only skipped may contain it.
-/

namespace AdmissionForecast.Json

inductive Token where
  | openArray
  | closeArray
  | openObject
  | closeObject
  | comma
  | colon
  /-- A value without parts that is not a string. -/
  | scalar (j : Json)
  /-- A string, or `none` if it has an unpaired surrogate. -/
  | string (s : Option String)
  deriving Repr

/-- A character of a string, or a lone code unit from a `\u` escape. -/
inductive Piece where
  | char (c : Char)
  | unit (n : Nat)
  deriving Repr

/-- The text of a string's pieces; each surrogate needs its partner next to it. -/
def textOfPieces? : List Piece → Option (List Char)
  | [] => some []
  | .char c :: rest => (textOfPieces? rest).map (c :: ·)
  | .unit hi :: .unit lo :: rest =>
    if 0xd800 ≤ hi && hi < 0xdc00 && 0xdc00 ≤ lo && lo < 0xe000 then
      (textOfPieces? rest).map (Char.ofNat (0x10000 + (hi - 0xd800) * 0x400 + (lo - 0xdc00)) :: ·)
    else if 0xd800 ≤ hi && hi < 0xe000 then none
    else (textOfPieces? (.unit lo :: rest)).map (Char.ofNat hi :: ·)
  | .unit n :: rest =>
    if 0xd800 ≤ n && n < 0xe000 then none else (textOfPieces? rest).map (Char.ofNat n :: ·)

/-- What the scan is in the middle of; the lists are reversed. -/
inductive Mode where
  | between
  | word (cs : List Char)
  | number (cs : List Char)
  | inString (ps : List Piece)
  | escape (ps : List Piece)
  | unicode (ps : List Piece) (digits : List Nat)
  deriving Repr

/-- The state of the scan, with the tokens so far reversed. -/
structure Scan where
  done : List Token
  mode : Mode

namespace Scan

def start : Scan := ⟨[], .between⟩

def isNumeral (c : Char) : Bool :=
  c.isDigit || c = '-' || c = '+' || c = '.' || c = 'e' || c = 'E'

def wordToken? (w : List Char) : Option Token :=
  if w = "null".toList then some (.scalar .null)
  else if w = "true".toList then some (.scalar (.bool true))
  else if w = "false".toList then some (.scalar (.bool false))
  else none

/-- Ends a word or a number. -/
def settle (s : Scan) : Option Scan :=
  match s.mode with
  | .between => some s
  | .word cs => (wordToken? cs.reverse).map fun t => ⟨t :: s.done, .between⟩
  | .number cs =>
    (Number.parts? cs.reverse).map fun p =>
      ⟨.scalar (Number.toJson cs.reverse p) :: s.done, .between⟩
  | _ => none

/-- Begins the next token with the character. -/
def begin (done : List Token) (c : Char) : Option Scan :=
  if c = ' ' || c = '\n' || c = '\t' || c = '\r' then some ⟨done, .between⟩
  else if c = '[' then some ⟨.openArray :: done, .between⟩
  else if c = ']' then some ⟨.closeArray :: done, .between⟩
  else if c = '\x7b' then some ⟨.openObject :: done, .between⟩
  else if c = '\x7d' then some ⟨.closeObject :: done, .between⟩
  else if c = ',' then some ⟨.comma :: done, .between⟩
  else if c = ':' then some ⟨.colon :: done, .between⟩
  else if c = '"' then some ⟨done, .inString []⟩
  else if c.isLower then some ⟨done, .word [c]⟩
  else if isNumeral c then some ⟨done, .number [c]⟩
  else none

/-- The piece that a one-letter escape stands for. -/
def escaped? (c : Char) : Option Char :=
  if c = '"' then some '"'
  else if c = '\\' then some '\\'
  else if c = '/' then some '/'
  else if c = 'b' then some '\x08'
  else if c = 'f' then some '\x0c'
  else if c = 'n' then some '\n'
  else if c = 'r' then some '\r'
  else if c = 't' then some '\t'
  else none

def step (s : Scan) (c : Char) : Option Scan :=
  match s.mode with
  | .between => begin s.done c
  | .word cs =>
    if c.isLower then some ⟨s.done, .word (c :: cs)⟩
    else s.settle.bind fun s => begin s.done c
  | .number cs =>
    if isNumeral c then some ⟨s.done, .number (c :: cs)⟩
    else s.settle.bind fun s => begin s.done c
  | .inString ps =>
    if c = '"' then
      some ⟨.string ((textOfPieces? ps.reverse).map String.ofList) :: s.done, .between⟩
    else if c = '\\' then some ⟨s.done, .escape ps⟩
    else if c.toNat < 0x20 then none
    else some ⟨s.done, .inString (.char c :: ps)⟩
  | .escape ps =>
    if c = 'u' then some ⟨s.done, .unicode ps []⟩
    else (escaped? c).map fun d => ⟨s.done, .inString (.char d :: ps)⟩
  | .unicode ps digits =>
    (Text.hexValue? c).map fun d =>
      match digits with
      | [d3, d2, d1] => ⟨s.done, .inString (.unit (4096 * d1 + 256 * d2 + 16 * d3 + d) :: ps)⟩
      | _ => ⟨s.done, .unicode ps (d :: digits)⟩

end Scan

def tokens? (cs : List Char) : Option (List Token) :=
  ((cs.foldlM Scan.step Scan.start).bind Scan.settle).map fun s => s.done.reverse

end AdmissionForecast.Json
