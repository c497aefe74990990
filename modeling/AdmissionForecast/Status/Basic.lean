import AdmissionForecast.Condition
import AdmissionForecast.Json.Print
import AdmissionForecast.Time.Timestamp

/-! # The status of an operator

Conditions that are kept between passes carry the time of their last transition. The time
moves only when a condition's status flips, so passes over an unchanged cluster leave the
status as it is.
-/

namespace AdmissionForecast

/-- A condition as it is kept. -/
structure StatusCondition where
  type : String
  status : ConditionStatus
  lastTransitionTime : Timestamp
  reason : String
  message : Option String
  deriving DecidableEq, Repr

namespace StatusCondition

def toJson (c : StatusCondition) : Json :=
  .record [Json.field "type" (.string c.type), Json.field "status" c.status.toJson,
    Json.field "lastTransitionTime" (.string c.lastTransitionTime.text),
    Json.field "reason" (.string c.reason), Json.field? "message" (c.message.map .string)]

def timeReader : Reader Timestamp := fun j =>
  (Reader.string j).bind fun s => (Timestamp.parse? s).elim (.error .malformed) .ok

def fields : Fields StatusCondition :=
  StatusCondition.mk <$> .required "type" Reader.string
    <*> .required "status" ConditionStatus.reader
    <*> .required "lastTransitionTime" timeReader
    <*> .required "reason" Reader.string <*> .optional "message" Reader.string

def reader : Reader StatusCondition := fields.reader

def ofCondition (c : Condition) (now : Timestamp) : StatusCondition :=
  ⟨c.type, c.status, now, c.reason, c.message⟩

/-- The entry with a condition's current values. -/
def update (existing : StatusCondition) (c : Condition) (now : Timestamp) : StatusCondition where
  type := existing.type
  status := c.status
  lastTransitionTime := if existing.status = c.status then existing.lastTransitionTime else now
  reason := c.reason
  message := c.message

end StatusCondition

structure Status where
  conditions : List StatusCondition := []
  deriving DecidableEq, Repr, Inhabited

namespace Status

def toJson (s : Status) : Json :=
  .record [Json.field "conditions" (.array (s.conditions.map StatusCondition.toJson))]

def fields : Fields Status :=
  Status.mk <$> .withDefault "conditions" [] (Reader.list StatusCondition.reader)

def reader : Reader Status := fields.reader

def parse (text : String) : Except ReadError Status := Json.readText reader text

def render (s : Status) : String := s.toJson.pretty

def get? (s : Status) (type : String) : Option StatusCondition :=
  s.conditions.find? fun c => c.type = type

/-- Merges one condition into the entries: the first entry of its type is updated, or a new
one is put at the end. Also says whether the status flipped or the entry is new. -/
def mergeCondition (c : Condition) (now : Timestamp) :
    List StatusCondition → List StatusCondition × Bool
  | [] => ([.ofCondition c now], true)
  | e :: rest =>
    if e.type = c.type then (e.update c now :: rest, e.status ≠ c.status)
    else
      let (rest', flipped) := mergeCondition c now rest
      (e :: rest', flipped)

/-- Merges one condition and counts its transition. -/
def mergeOne (now : Timestamp) (acc : List StatusCondition × Nat) (c : Condition) :
    List StatusCondition × Nat :=
  let (entries, flipped) := mergeCondition c now acc.1
  (entries, acc.2 + flipped.toNat)

/-- Merges conditions into the status at a time, which is cut to whole seconds. Also counts
the conditions that flipped or are new. -/
def apply (s : Status) (set : ConditionSet) (now : Timestamp) : Status × Nat :=
  let (entries, transitions) := set.foldl (mergeOne now.truncate) (s.conditions, 0)
  (⟨entries⟩, transitions)

end Status

end AdmissionForecast
