import AdmissionForecast.Json.Basic

/-! # Printing JSON

Two layouts: compact, on one line without blanks, and indented by two blanks a level.
-/

namespace AdmissionForecast.Json

def hexDigits4 (n : Nat) : List Char :=
  [n / 4096 % 16, n / 256 % 16, n / 16 % 16, n % 16].map Nat.digitChar

/-- One character inside a string: escapes for the quote, the backslash and the control
characters, all else as itself. -/
def escapeChar (c : Char) : List Char :=
  if c = '"' then ['\\', '"']
  else if c = '\\' then ['\\', '\\']
  else if c = '\n' then ['\\', 'n']
  else if c = '\r' then ['\\', 'r']
  else if c = '\t' then ['\\', 't']
  else if c = '\x08' then ['\\', 'b']
  else if c = '\x0c' then ['\\', 'f']
  else if c.toNat < 0x20 then ['\\', 'u'] ++ hexDigits4 c.toNat
  else [c]

def printString (s : String) : List Char :=
  '"' :: s.toList.flatMap escapeChar ++ ['"']

def printScalar : Json → List Char
  | bool b => (if b then "true" else "false").toList
  | int n => (toString n).toList
  | real literal => literal.toList
  | string s => printString s
  | _ => "null".toList

mutual

def compactChars : Json → List Char
  | array items => '[' :: compactItems items ++ [']']
  | object members => '\x7b' :: compactMembers members ++ ['\x7d']
  | j => printScalar j

def compactItems : List Json → List Char
  | [] => []
  | [j] => compactChars j
  | j :: rest => compactChars j ++ ',' :: compactItems rest

def compactMembers : List (String × Json) → List Char
  | [] => []
  | [(k, j)] => printString k ++ ':' :: compactChars j
  | (k, j) :: rest => printString k ++ ':' :: compactChars j ++ ',' :: compactMembers rest

end

def newline (depth : Nat) : List Char := '\n' :: List.replicate (2 * depth) ' '

mutual

def prettyChars (depth : Nat) : Json → List Char
  | array [] => ['[', ']']
  | array items => '[' :: prettyItems (depth + 1) items ++ newline depth ++ [']']
  | object [] => ['\x7b', '\x7d']
  | object members => '\x7b' :: prettyMembers (depth + 1) members ++ newline depth ++ ['\x7d']
  | j => printScalar j

def prettyItems (depth : Nat) : List Json → List Char
  | [] => []
  | [j] => newline depth ++ prettyChars depth j
  | j :: rest => newline depth ++ prettyChars depth j ++ ',' :: prettyItems depth rest

def prettyMembers (depth : Nat) : List (String × Json) → List Char
  | [] => []
  | [(k, j)] => newline depth ++ printString k ++ ':' :: ' ' :: prettyChars depth j
  | (k, j) :: rest =>
    newline depth ++ printString k ++ ':' :: ' ' :: prettyChars depth j ++
      ',' :: prettyMembers depth rest

end

def compact (j : Json) : String := String.ofList (compactChars j)

/-- The value on indented lines, without a final line break. -/
def pretty (j : Json) : String := String.ofList (prettyChars 0 j)

end AdmissionForecast.Json
