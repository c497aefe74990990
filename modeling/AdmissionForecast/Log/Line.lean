import AdmissionForecast.Json.Print
import AdmissionForecast.Log.Config
import AdmissionForecast.Text.Quoted

/-! # Lines of the log

How an event is written: for people, with the message and then the fields, or as a JSON object.
-/

namespace AdmissionForecast.Log

def FieldValue.lineText : FieldValue → String
  | text s => quote s
  | plain s => s
  | count n => toString n

def FieldValue.toJson : FieldValue → Json
  | text s => .string s
  | plain s => .string s
  | count n => .int n

namespace Event

def severityText (e : Event) : String :=
  let name := e.severity.name
  String.ofList (List.replicate (5 - name.length) ' ') ++ name

/-- The line for people, from the severity on. -/
def lineText (e : Event) : String :=
  " ".intercalate (e.severityText :: e.message ::
    e.fields.map fun f => f.1 ++ "=" ++ f.2.lineText)

/-- The object for machines; the event's own fields come between the time and the target. -/
def toJsonAt (e : Event) (now : String) : Json :=
  .object ([("timestamp", .string now), ("level", .string e.severity.name),
    ("message", .string e.message)] ++ e.fields.map (fun f => (f.1, f.2.toJson)) ++
    [("target", .string e.component.target)])

def render (c : Config) (now : String) (e : Event) : String :=
  match c.format with
  | .human => if c.timestamps then now ++ " " ++ e.lineText else e.lineText
  | .jsonLines => (e.toJsonAt now).compact

end Event

end AdmissionForecast.Log
