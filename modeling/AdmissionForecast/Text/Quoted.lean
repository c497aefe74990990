import AdmissionForecast.Text.Visible

/-! # Quoted text

How names and values are quoted in messages: between double quotes, with a backslash form
for the quote, the backslash, four control characters and every character that is not visible.
-/

namespace AdmissionForecast.Quoted

/-- The code point in hexadecimal, lower case and without leading zeros. -/
def hexCode (c : Char) : List Char := Nat.toDigits 16 c.toNat

/-- The form of one character between the quotes. -/
def escape (c : Char) : List Char :=
  if c = '"' then ['\\', '"']
  else if c = '\\' then ['\\', '\\']
  else if c = '\n' then ['\\', 'n']
  else if c = '\r' then ['\\', 'r']
  else if c = '\t' then ['\\', 't']
  else if c = '\x00' then ['\\', '0']
  else if Text.isVisible c then [c]
  else ['\\', 'u', '\x7b'] ++ hexCode c ++ ['\x7d']

def encode (cs : List Char) : List Char :=
  '"' :: cs.flatMap escape ++ ['"']

end AdmissionForecast.Quoted

namespace AdmissionForecast

def quote (s : String) : String := String.ofList (Quoted.encode s.toList)

/-- Each text in quotes, with commas between. -/
def quoteAll (names : List String) : String := ", ".intercalate (names.map quote)

@[simp] theorem quote_toList (s : String) : (quote s).toList = Quoted.encode s.toList := by
  simp [quote]

end AdmissionForecast
