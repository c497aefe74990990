import AdmissionForecast.Text.Blank
import AdmissionForecast.Time.Calendar

/-! # Timestamps

Points of time in UTC with nanoseconds. A leap second is the last second of its minute with a
whole second more of nanoseconds. The text form is that of RFC 3339; what is read is a looser
form of it, with blanks between the parts, short fields, and any offset from UTC.
-/

namespace AdmissionForecast

structure Timestamp where
  day : Day
  hour : Nat
  minute : Nat
  second : Nat
  nano : Nat
  deriving DecidableEq, Repr

namespace Timestamp

def IsValid (t : Timestamp) : Prop :=
  t.day.IsValid ∧ t.hour < 24 ∧ t.minute < 60 ∧ t.second < 60 ∧
    t.nano < (if t.second = 59 then 2000000000 else 1000000000)

instance (t : Timestamp) : Decidable t.IsValid := inferInstanceAs (Decidable (_ ∧ _))

/-- The time without its part of a second. -/
def truncate (t : Timestamp) : Timestamp := { t with nano := 0 }

/-- The time of a clock that counts seconds and nanoseconds from its first day on. -/
def ofClock (seconds nano : Nat) : Timestamp where
  day := Day.clockStart.after (seconds / 86400)
  hour := seconds % 86400 / 3600
  minute := seconds % 3600 / 60
  second := seconds % 60
  nano := nano

/-- The time of a local time that is so many minutes ahead of UTC. -/
def ofLocal? (t : Timestamp) (minutesAhead : Int) : Option Timestamp :=
  let minutes : Int := t.hour * 60 + t.minute - minutesAhead
  let day :=
    if minutes < 0 then t.day.previous
    else if 1440 ≤ minutes then t.day.next
    else t.day
  let minutes := (minutes % 1440).toNat
  let shifted : Timestamp := { t with day, hour := minutes / 60, minute := minutes % 60 }
  if t.IsValid ∧ shifted.IsValid then some shifted else none

/-- The decimal digits of a number, with zeros in front up to the given width. -/
def padded (width n : Nat) : List Char :=
  let digits := Nat.toDigits 10 n
  List.replicate (width - digits.length) '0' ++ digits

/-- Four digits for the years from 0 to 9999, and a sign as well for all others. -/
def yearText (year : Int) : List Char :=
  if 0 ≤ year ∧ year ≤ 9999 then padded 4 year.toNat
  else (if year < 0 then '-' else '+') :: padded 4 year.natAbs

/-- The part of a second in as many groups of three digits as it needs. -/
def fractionText (nano : Nat) : List Char :=
  if nano = 0 then []
  else if nano % 1000000 = 0 then '.' :: padded 3 (nano / 1000000)
  else if nano % 1000 = 0 then '.' :: padded 6 (nano / 1000)
  else '.' :: padded 9 nano

/-- The second as it is written, where a leap second is the second 60. -/
def writtenSecond (t : Timestamp) : Nat := t.second + t.nano / 1000000000

def secondsText (t : Timestamp) : List Char :=
  yearText t.day.year ++ '-' :: padded 2 t.day.month ++ '-' :: padded 2 t.day.day ++
    'T' :: padded 2 t.hour ++ ':' :: padded 2 t.minute ++ ':' :: padded 2 t.writtenSecond

/-- The text of the time, with a fraction only if it has one. -/
def text (t : Timestamp) : String :=
  String.ofList (t.secondsText ++ fractionText (t.nano % 1000000000) ++ ['Z'])

def microsecondText (t : Timestamp) : String :=
  String.ofList
    (t.secondsText ++ '.' :: padded 6 (t.nano % 1000000000 / 1000) ++ ['Z'])

/-- What is left of a text after a part of it was read. -/
abbrev Scanner (α : Type) := List Char → Option (α × List Char)

def digitValue (c : Char) : Nat := c.toNat - '0'.toNat

def natOfDigits (ds : List Char) : Nat := ds.foldl (fun n c => 10 * n + digitValue c) 0

/-- A number of at least one and at most `width` digits. -/
def scanNumber (width : Nat) : Scanner Nat := fun cs =>
  let ds := (cs.take width).takeWhile Char.isDigit
  if ds.isEmpty then none else some (natOfDigits ds, cs.drop ds.length)

def scanLongNumber : Scanner Nat := fun cs => scanNumber cs.length cs

def scanField (width : Nat) : Scanner Nat := fun cs => scanNumber width (Text.trimStart cs)

/-- A year after blanks: up to four digits, or a sign and any number of digits. -/
def scanYear : Scanner Int := fun cs =>
  match Text.trimStart cs with
  | '-' :: rest => (scanLongNumber rest).map fun r => (-(r.1 : Int), r.2)
  | '+' :: rest => (scanLongNumber rest).map fun r => ((r.1 : Int), r.2)
  | rest => (scanNumber 4 rest).map fun r => ((r.1 : Int), r.2)

def scanChar (c : Char) : Scanner Unit := fun cs =>
  match Text.trimStart cs with
  | d :: rest => if d = c then some ((), rest) else none
  | [] => none

/-- A point and digits, in nanoseconds; digits beyond the ninth are cut off. -/
def scanFraction : Scanner Nat
  | '.' :: rest => do
    let (n, after) ← scanNumber 9 rest
    let width := rest.length - after.length
    some (n * Nat.pow 10 (9 - width), after.dropWhile Char.isDigit)
  | cs => some (0, cs)

/-- The letter or blank between the day and the time of day. -/
def scanSeparator : Scanner Unit
  | 't' :: rest | 'T' :: rest | ' ' :: rest => some ((), rest)
  | _ => none

/-- Two digits, of which the first is at most `most`. -/
def scanTwoDigits (most : Char) : Scanner Nat
  | a :: b :: rest =>
    if a.isDigit && b.isDigit && a ≤ most then some (10 * digitValue a + digitValue b, rest)
    else none
  | _ => none

/-- Hours and minutes of an offset, with colons and blanks between. -/
def scanOffsetMinutes : Scanner Nat := fun cs => do
  let (hours, cs) ← scanTwoDigits '9' cs
  let (minutes, cs) ← scanTwoDigits '5' (cs.dropWhile fun c => c = ':' || Text.isBlank c)
  let total := 60 * hours + minutes
  if total < 1440 then some (total, cs) else none

/-- The offset from UTC in minutes: `Z`, the letters UTC, or a sign with hours and minutes.
The sign may be a hyphen or the proper minus sign. -/
def scanOffset : Scanner Int
  | '+' :: rest => (scanOffsetMinutes rest).map fun r => ((r.1 : Int), r.2)
  | '-' :: rest | '\u2212' :: rest => (scanOffsetMinutes rest).map fun r => (-(r.1 : Int), r.2)
  | 'Z' :: rest | 'z' :: rest => some (0, rest)
  | a :: b :: c :: rest =>
    if [a, b, c].map Char.toLower = ['u', 't', 'c'] then some (0, rest) else none
  | _ => none

def scanDay : Scanner Day := fun cs => do
  let (year, cs) ← scanYear cs
  let ((), cs) ← scanChar '-' cs
  let (month, cs) ← scanField 2 cs
  let ((), cs) ← scanChar '-' cs
  let (day, cs) ← scanField 2 cs
  some (⟨year, month, day⟩, cs)

/-- A local time; the second 60 is a leap second. -/
def scanLocal : Scanner Timestamp := fun cs => do
  let (day, cs) ← scanDay cs
  let ((), cs) ← scanSeparator cs
  let (hour, cs) ← scanField 2 cs
  let ((), cs) ← scanChar ':' cs
  let (minute, cs) ← scanField 2 cs
  let ((), cs) ← scanChar ':' cs
  let (second, cs) ← scanField 2 cs
  let (nano, cs) ← scanFraction cs
  if second = 60 then some (⟨day, hour, minute, 59, nano + 1000000000⟩, cs)
  else some (⟨day, hour, minute, second, nano⟩, cs)

/-- The time that a text stands for. -/
def parse? (s : String) : Option Timestamp := do
  let (t, cs) ← scanLocal s.toList
  let (minutesAhead, cs) ← scanOffset (Text.trimStart cs)
  if (Text.trimStart cs).isEmpty then t.ofLocal? minutesAhead else none

end Timestamp

end AdmissionForecast
