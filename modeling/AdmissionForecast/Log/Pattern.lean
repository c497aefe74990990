import AdmissionForecast.Log.Expression.Scan

/-! # Values of fields

A filter may ask for the value of a field, by a literal or by a regular expression. What is asked
for only has to be well-formed here, since no event is selected by a value.
-/

namespace AdmissionForecast.Log.Pattern

/-- Reads a number with a plus sign, as `+1.5e3`. Without the sign a number is an expression. -/
def isSigned : List Char → Bool
  | '+' :: cs =>
    let word := (String.ofList cs).toLower
    let whole := cs.takeWhile Char.isDigit
    let cs := cs.dropWhile Char.isDigit
    let (fraction, cs) := match cs with
      | '.' :: rest => (rest.takeWhile Char.isDigit, rest.dropWhile Char.isDigit)
      | _ => ([], cs)
    let exponent := match cs with
      | 'e' :: '+' :: ds | 'e' :: '-' :: ds | 'E' :: '+' :: ds | 'E' :: '-' :: ds => some ds
      | 'e' :: ds | 'E' :: ds => some ds
      | [] => some ['0']
      | _ => none
    ["inf", "infinity", "nan"].contains word ||
      (!(whole ++ fraction).isEmpty && exponent.any fun ds => !ds.isEmpty && ds.all Char.isDigit)
  | _ => false

def isWellFormed (cs : List Char) : Bool := isSigned cs || Expression.isExpression cs

end AdmissionForecast.Log.Pattern
