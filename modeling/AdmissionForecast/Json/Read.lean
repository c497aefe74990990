import AdmissionForecast.Json.Document

/-! # Reading records from JSON

Readers for the shapes that records are made of. A record is read from an object by the
names of its fields, whatever else the object holds, or from an array by their order. When
several fields cannot be read the one whose member comes first decides, and fields that are
missing come after all that are present, in the order of their declaration.
-/

namespace AdmissionForecast

/-- Why a value is not what a reader asks for. -/
inductive ReadError where
  | missing (field : String)
  | malformed
  deriving DecidableEq, Repr

/-- A reader of one shape. -/
abbrev Reader (α : Type) := Json → Except ReadError α

namespace Reader

variable {α : Type}

def string : Reader String
  | .string s => .ok s
  | _ => .error .malformed

def bool : Reader Bool
  | .bool b => .ok b
  | _ => .error .malformed

def intIn (lo hi : Int) : Reader Int
  | .int n => if lo ≤ n ∧ n ≤ hi then .ok n else .error .malformed
  | _ => .error .malformed

def int32 : Reader Int32 := fun j => (intIn (-Int.pow 2 31) (Int.pow 2 31 - 1) j).map Int32.ofInt

def int64 : Reader Int64 := fun j => (intIn (-Int.pow 2 63) (Int.pow 2 63 - 1) j).map Int64.ofInt

def uint64 : Reader UInt64 := fun j => (intIn 0 (Int.pow 2 64 - 1) j).map fun n => .ofNat n.toNat

/-- An optional value, absent when it is `null`. -/
def optional (r : Reader α) : Reader (Option α)
  | .null => .ok none
  | j => (r j).map some

def list (r : Reader α) : Reader (List α)
  | .array items => items.mapM r
  | _ => .error .malformed

/-- A map; of several members with one name the last one counts, but all have to be right. -/
def map (r : Reader α) : Reader (StringMap α)
  | .object members => do
    let entries ← members.mapM fun m => (r m.2).map (m.1, ·)
    return .ofList entries
  | _ => .error .malformed

/-- Any value at all, with its members sorted. -/
def value : Reader Json := fun j => if j.isReadable then .ok j.normal else .error .malformed

/-- One of a table of names: the name itself, or an object with the name as its only member
and `null` as the value. -/
def name (table : String → Option α) : Reader α
  | .string s => (table s).elim (.error .malformed) .ok
  | .object [(s, .null)] => (table s).elim (.error .malformed) .ok
  | _ => .error .malformed

end Reader

/-- A reading that failed, with the place of the member that it failed at. -/
structure FieldFailure where
  place : Nat
  cause : ReadError

/-- Some of the fields of a record: their names, and how they are read from members. -/
structure Fields (α : Type) where
  names : List String
  read : List (String × Json) → Except FieldFailure α

namespace Fields

variable {α β : Type}

/-- The place and the value of the first member with a name. -/
def member? (name : String) : List (String × Json) → Option (Nat × Json)
  | [] => none
  | (k, j) :: rest =>
    if k = name then some (0, j) else (member? name rest).map fun m => (m.1 + 1, m.2)

/-- A field that has a value if its member is absent; `none` says that there is no such value. -/
def fieldWith (fallback : Option α) (name : String) (r : Reader α) : Fields α where
  names := [name]
  read members :=
    match member? name members with
    | some (place, j) => (r j).mapError (⟨place, ·⟩)
    | none =>
      match fallback with
      | some a => .ok a
      | none => .error ⟨members.length, .missing name⟩

def required (name : String) (r : Reader α) : Fields α := fieldWith none name r

def withDefault (name : String) (a : α) (r : Reader α) : Fields α := fieldWith (some a) name r

/-- A field that may be absent or `null`. -/
def optional (name : String) (r : Reader α) : Fields (Option α) :=
  fieldWith (some none) name (Reader.optional r)

/-- Both parts read; of two failures the one at the earlier place is kept. -/
def both (f : Except FieldFailure (α → β)) (x : Except FieldFailure α) : Except FieldFailure β :=
  match f, x with
  | .ok f, .ok a => .ok (f a)
  | .ok _, .error e => .error e
  | .error e, .ok _ => .error e
  | .error e, .error e' => .error (if e'.place < e.place then e' else e)

instance : Applicative Fields where
  pure a := ⟨[], fun _ => .ok a⟩
  seq f x := ⟨f.names ++ (x ()).names, fun members => both (f.read members) ((x ()).read members)⟩

/-- Whether some field is given twice. -/
def repeats (names : List String) (members : List (String × Json)) : Bool :=
  names.any fun name => 1 < members.countP fun m => m.1 = name

def ofMembers (f : Fields α) (members : List (String × Json)) : Except ReadError α :=
  if repeats f.names members then .error .malformed
  else (f.read members).mapError (·.cause)

/-- Reads a record from its fields in order of declaration; only trailing fields may be
absent, and none may be left over. -/
def ofItems (f : Fields α) (items : List Json) : Except ReadError α :=
  match f.read (f.names.zip items) with
  | .ok a => if items.length ≤ f.names.length then .ok a else .error .malformed
  | .error e => if e.place < items.length then .error e.cause else .error .malformed

def reader (f : Fields α) : Reader α
  | .object members => f.ofMembers members
  | .array items => f.ofItems items
  | _ => .error .malformed

end Fields

namespace Json

/-- Reads a text directly: what a reader skips only has to be well-formed. -/
def readText {α : Type} (r : Reader α) (s : String) : Except ReadError α :=
  match parse? s with
  | some j => r j
  | none => .error .malformed

/-- Reads a text by way of its normal value, so that all of it has to be readable. -/
def readWhole {α : Type} (r : Reader α) (s : String) : Except ReadError α :=
  match parse? s with
  | some j => if j.isReadable then r j.normal else .error .malformed
  | none => .error .malformed

end Json

end AdmissionForecast
