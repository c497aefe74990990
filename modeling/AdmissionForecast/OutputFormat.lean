/-! # Output formats

How a command presents its results.
-/

namespace AdmissionForecast

inductive OutputFormat where
  | json
  | human
  | summary
  deriving DecidableEq, Repr

namespace OutputFormat

def name : OutputFormat → String
  | json => "json"
  | human => "human"
  | summary => "summary"

def ofName? : String → Option OutputFormat
  | "json" => some json
  | "human" => some human
  | "summary" => some summary
  | _ => none

end OutputFormat

end AdmissionForecast
