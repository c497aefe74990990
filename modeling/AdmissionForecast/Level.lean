import AdmissionForecast.Json.Read
import AdmissionForecast.Text.Quoted

/-! # Levels

The three levels of the Pod Security Standards, ordered by strictness, and levels pinned to
a version of the policy.
-/

namespace AdmissionForecast

inductive Level where
  | privileged
  | baseline
  | restricted
  deriving DecidableEq, Repr, Inhabited

/-- A text that names no level. -/
structure InvalidLevel where
  text : String
  deriving DecidableEq, Repr

def InvalidLevel.message (e : InvalidLevel) : String :=
  s!"must be one of privileged, baseline, restricted; got {quote e.text}"

namespace Level

/-- All levels, the least strict one first. -/
def all : List Level := [privileged, baseline, restricted]

def rank : Level → Nat
  | privileged => 0
  | baseline => 1
  | restricted => 2

def name : Level → String
  | privileged => "privileged"
  | baseline => "baseline"
  | restricted => "restricted"

def ofName? : String → Option Level
  | "privileged" => some privileged
  | "baseline" => some baseline
  | "restricted" => some restricted
  | _ => none

def parse (s : String) : Except InvalidLevel Level := (ofName? s).elim (.error ⟨s⟩) .ok

/-- The level of that name in any case of its ASCII letters. -/
def parseAnyCase (s : String) : Except InvalidLevel Level := parse s.toLower

instance : LE Level := ⟨fun a b => a.rank ≤ b.rank⟩

instance : LT Level := ⟨fun a b => a.rank < b.rank⟩

instance (a b : Level) : Decidable (a ≤ b) := inferInstanceAs (Decidable (a.rank ≤ b.rank))

instance (a b : Level) : Decidable (a < b) := inferInstanceAs (Decidable (a.rank < b.rank))

theorem rank_injective {a b : Level} (h : a.rank = b.rank) : a = b := by
  cases a <;> cases b <;> first | rfl | exact absurd h (by decide)

@[simp] theorem ofName?_name (l : Level) : ofName? l.name = some l := by cases l <;> rfl

theorem ofName?_eq_some_iff {s : String} {l : Level} : ofName? s = some l ↔ s = l.name := by
  constructor
  · intro h
    unfold ofName? at h
    split at h <;> cases h <;> rfl
  · intro h
    rw [h, ofName?_name]

def strictest (levels : List Level) : Option Level :=
  levels.foldl (fun best l =>
    match best with
    | some b => if l ≤ b then some b else some l
    | none => some l) none

def toJson (l : Level) : Json := .string l.name

def reader : Reader Level := Reader.name ofName?

end Level

/-- A level at one version of the policy. -/
structure LevelVersion where
  level : Level
  version : String
  deriving DecidableEq, Repr

namespace LevelVersion

/-- The version that stands for the newest policy. -/
def latest : String := "latest"

def text (v : LevelVersion) : String := s!"{v.level.name}:{v.version}"

def toJson (v : LevelVersion) : Json :=
  .record [Json.field "level" v.level.toJson, Json.field "version" (.string v.version)]

def fields : Fields LevelVersion :=
  LevelVersion.mk <$> .required "level" Level.reader <*> .required "version" Reader.string

def reader : Reader LevelVersion := fields.reader

end LevelVersion

end AdmissionForecast
