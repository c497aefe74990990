import AdmissionForecast.Json.Token

/-! # JSON documents

A document is built from its tokens with a stack of the arrays and objects that are open, so
that nesting of any depth is only ever a longer stack. What lies deeper than the limit has
to be well-formed too, but is unreadable.
-/

namespace AdmissionForecast.Json

/-- How many arrays and objects may be open at once for a value to be readable. -/
def depthLimit : Nat := 127

/-- An open array or object, with the parts so far reversed. -/
inductive Frame where
  | items (parts : List Json)
  /-- The members so far, and the name of the one that is being read; a name is `none` if it
  is no text. -/
  | members (parts : List (Option String × Json)) (name : Option String)

/-- What may come next. -/
inductive Phase where
  | value
  | firstItem
  | firstName
  | name
  | colon
  | afterPart
  | finished (j : Json)

structure Builder where
  frames : List Frame
  depth : Nat
  phase : Phase

namespace Builder

def start : Builder := ⟨[], 0, .value⟩

/-- The members under names that are text, unless some name is not. -/
def namedMembers? (parts : List (Option String × Json)) : Option (List (String × Json)) :=
  parts.mapM fun m => m.1.map fun k => (k, m.2)

/-- The value of a closed frame at the given depth. -/
def close (depth : Nat) : Frame → Json
  | .items parts => if depth ≤ depthLimit then .array parts.reverse else .unreadable
  | .members parts _ =>
    match namedMembers? parts.reverse with
    | some members => if depth ≤ depthLimit then .object members else .unreadable
    | none => .unreadable

/-- Puts a complete value where it belongs. -/
def place (frames : List Frame) (depth : Nat) (j : Json) : Builder :=
  match frames with
  | [] => ⟨[], depth, .finished j⟩
  | .items parts :: rest => ⟨.items (j :: parts) :: rest, depth, .afterPart⟩
  | .members parts name :: rest => ⟨.members ((name, j) :: parts) none :: rest, depth, .afterPart⟩

def pop (b : Builder) : Option Builder :=
  match b.frames with
  | [] => none
  | f :: rest => some (place rest (b.depth - 1) (close b.depth f))

def isArray : List Frame → Bool
  | .items _ :: _ => true
  | _ => false

def beginValue (b : Builder) : Token → Option Builder
  | .openArray => some ⟨.items [] :: b.frames, b.depth + 1, .firstItem⟩
  | .openObject => some ⟨.members [] none :: b.frames, b.depth + 1, .firstName⟩
  | .scalar j => some (place b.frames b.depth j)
  | .string s => some (place b.frames b.depth (s.elim .unreadable .string))
  | _ => none

def beginMember (b : Builder) (name : Option String) : Option Builder :=
  match b.frames with
  | .members parts _ :: rest => some ⟨.members parts name :: rest, b.depth, .colon⟩
  | _ => none

def step (b : Builder) (t : Token) : Option Builder :=
  match b.phase, t with
  | .value, t => b.beginValue t
  | .firstItem, .closeArray => b.pop
  | .firstItem, t => b.beginValue t
  | .firstName, .closeObject => b.pop
  | .firstName, .string s => b.beginMember s
  | .name, .string s => b.beginMember s
  | .colon, .colon => some { b with phase := .value }
  | .afterPart, .comma => some { b with phase := if isArray b.frames then .value else .name }
  | .afterPart, .closeArray => if isArray b.frames then b.pop else none
  | .afterPart, .closeObject => if isArray b.frames then none else b.pop
  | _, _ => none

def result? (b : Builder) : Option Json :=
  match b.phase with
  | .finished j => some j
  | _ => none

end Builder

def ofTokens? (ts : List Token) : Option Json :=
  (ts.foldlM Builder.step Builder.start).bind Builder.result?

def parse? (s : String) : Option Json := (tokens? s.toList).bind ofTokens?

end AdmissionForecast.Json
