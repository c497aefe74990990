import AdmissionForecast.StringMap

/-! # JSON values

A value keeps the members of an object in the order they were written, repetitions included.
The form `unreadable` stands for text that is well-formed and yet has no value here: a number
out of the range of doubles, a string with an unpaired surrogate, or nesting beyond the limit.
Such a value can be skipped and never read.
-/

namespace AdmissionForecast

inductive Json where
  | null
  | bool (b : Bool)
  /-- A number written without fraction and exponent that fits 64 bits. -/
  | int (n : Int)
  /-- Any other number, as it was written. -/
  | real (literal : String)
  | string (s : String)
  | array (items : List Json)
  | object (members : List (String × Json))
  | unreadable
  deriving Inhabited, Repr, BEq

namespace Json

mutual

/-- The value with the members of every object sorted by name; of several members with one
name the last one counts. -/
def normal : Json → Json
  | array items => array (normalItems items)
  | object members => object (StringMap.ofList (normalMembers members)).entries
  | j => j

def normalItems : List Json → List Json
  | [] => []
  | j :: rest => normal j :: normalItems rest

def normalMembers : List (String × Json) → List (String × Json)
  | [] => []
  | (k, j) :: rest => (k, normal j) :: normalMembers rest

end

mutual

/-- Whether no part of the value is unreadable. -/
def isReadable : Json → Bool
  | array items => areReadable items
  | object members => haveReadable members
  | unreadable => false
  | _ => true

def areReadable : List Json → Bool
  | [] => true
  | j :: rest => isReadable j && areReadable rest

def haveReadable : List (String × Json) → Bool
  | [] => true
  | (_, j) :: rest => isReadable j && haveReadable rest

end

theorem normalItems_eq_map (items : List Json) : normalItems items = items.map normal := by
  induction items with
  | nil => rfl
  | cons j rest ih => simp [normalItems, ih]

theorem normalMembers_eq_map (members : List (String × Json)) :
    normalMembers members = members.map (fun m => (m.1, normal m.2)) := by
  induction members with
  | nil => rfl
  | cons m rest ih => simp [normalMembers, ih]

def field (name : String) (j : Json) : Option (String × Json) := some (name, j)

/-- A member that is left out when there is no value. -/
def field? (name : String) (j : Option Json) : Option (String × Json) := j.map (name, ·)

/-- A member that is left out when the list is empty. -/
def fieldUnlessEmpty {α : Type} (name : String) (write : α → Json) (xs : List α) :
    Option (String × Json) :=
  if xs.isEmpty then none else some (name, array (xs.map write))

/-- The object of the members that are present. -/
def record (fields : List (Option (String × Json))) : Json := object (fields.filterMap id)

def ofMap {α : Type} (write : α → Json) (m : StringMap α) : Json :=
  object (m.entries.map fun e => (e.1, write e.2))

def ofOption {α : Type} (write : α → Json) : Option α → Json
  | none => null
  | some a => write a

def ofStrings (xs : List String) : Json := array (xs.map string)

end Json

end AdmissionForecast
