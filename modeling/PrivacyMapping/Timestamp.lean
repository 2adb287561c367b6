import PrivacyMapping.Calendar
import PrivacyMapping.Text.Digits
import PrivacyMapping.Text.Quoted

/-!
# Timestamps

An instant of a year from 0 to 9999, in universal time and to the second, as documents carry it
under `last-modified`. It is written as `2026-10-18T09:30:00Z`. A minute may have a sixty-first
second, an inserted leap second, which lies after its last ordinary second and before the next
minute. What is read may be given to a fraction of a second, which is dropped, and must end in `Z`.
-/

namespace PrivacyMapping

/-- The number of nanoseconds in a second. -/
def nanosInSecond : Nat := 1000000000

/-- An instant to the nanosecond: the year, the day of the year and the second of the day, both
counted from zero, and the nanosecond in that second. Where a leap second is inserted, its
nanoseconds count on from those of the second before it. -/
structure Instant where
  year : Nat
  day : Nat
  second : Nat
  nanosecond : Nat
  year_lt : year < 10000
  day_lt : day < Calendar.daysInYear year
  second_lt : second < 86400
  nanosecond_lt : nanosecond < 2 * nanosInSecond
  leap_only : nanosInSecond ≤ nanosecond → second % 60 = 59
  deriving DecidableEq

/-- An instant to the second: the year, the day of the year and the second of the day, both counted
from zero, and whether it is the leap second inserted after that second. -/
structure Timestamp where
  year : Nat
  day : Nat
  second : Nat
  leap : Bool
  year_lt : year < 10000
  day_lt : day < Calendar.daysInYear year
  second_lt : second < 86400
  leap_only : leap = true → second % 60 = 59
  deriving DecidableEq

namespace Timestamp

/-- The instant without the fraction of its second; a part of a leap second is that leap second. -/
def ofInstant (instant : Instant) : Timestamp where
  year := instant.year
  day := instant.day
  second := instant.second
  leap := decide (nanosInSecond ≤ instant.nanosecond)
  year_lt := instant.year_lt
  day_lt := instant.day_lt
  second_lt := instant.second_lt
  leap_only := fun h => instant.leap_only (of_decide_eq_true h)

/-! ## Order -/

/-- The nanosecond at which the instant lies in its second. -/
def nanosecond (t : Timestamp) : Nat :=
  if t.leap then nanosInSecond else 0

/-- The numbers by which instants are ordered, the weightiest first. -/
def key (t : Timestamp) : List Nat :=
  [t.year, t.day, t.second, t.nanosecond]

instance : LT Timestamp := ⟨fun a b => a.key < b.key⟩

instance (a b : Timestamp) : Decidable (a < b) :=
  inferInstanceAs (Decidable (a.key < b.key))

/-! ## Written form -/

/-- A number in exactly as many decimal digits as asked for. -/
def paddedDigits : Nat → Nat → List Char
  | 0, _ => []
  | width + 1, n => paddedDigits width (n / 10) ++ [Nat.digitChar (n % 10)]

def chars (t : Timestamp) : List Char :=
  let (month, day) := Calendar.monthAndDay t.year t.day
  let second := t.second % 60 + t.leap.toNat
  paddedDigits 4 t.year ++ '-' :: paddedDigits 2 month ++ '-' :: paddedDigits 2 day ++
    'T' :: paddedDigits 2 (t.second / 3600) ++ ':' :: paddedDigits 2 (t.second / 60 % 60) ++
    ':' :: paddedDigits 2 second ++ ['Z']

def text (t : Timestamp) : String :=
  String.ofList t.chars

/-! ## Reading -/

/-- What is wrong with a text that ends in `Z`. -/
inductive Fault where
  | tooShort
  | invalid
  | outOfRange
  | trailing
  deriving DecidableEq, Repr

def Fault.message : Fault → String
  | .tooShort => "premature end of input"
  | .invalid => "input contains invalid characters"
  | .outOfRange => "input is out of range"
  | .trailing => "trailing input"

/-- Why a text is refused. -/
inductive Error where
  | notUniversal (text : String)
  | malformed (text : String) (fault : Fault)
  deriving DecidableEq, Repr

def Error.message : Error → String
  | .notUniversal text =>
    "invalid timestamp: " ++ Text.quoted text ++ " is not UTC; expected a trailing Z"
  | .malformed text fault => "invalid timestamp: " ++ Text.quoted text ++ ": " ++ fault.message

/-- What a reader makes of a text. -/
abbrev Reading := Except Fault

/-- A number of exactly `width` digits. -/
def readDigits (width : Nat) (cs : List Char) : Reading (Nat × List Char) :=
  let digits := cs.take width
  if digits.length = width ∧ digits.all Char.isDigit then
    .ok (Nat.ofDigitChars 10 digits 0, cs.drop width)
  else .error .invalid

def readMark (p : Char → Bool) : List Char → Reading (List Char)
  | [] => .error .invalid
  | c :: rest => if p c then .ok rest else .error .invalid

/-- The year and the day of the year at the start of a text. -/
def readDate (cs : List Char) : Reading ((Nat × Nat) × List Char) := do
  let (year, cs) ← readDigits 4 cs
  let cs ← readMark (· == '-') cs
  let (month, cs) ← readDigits 2 cs
  let cs ← readMark (· == '-') cs
  let (day, cs) ← readDigits 2 cs
  match Calendar.dayOfYear? year month day with
  | some day => pure ((year, day), cs)
  | none => throw .outOfRange

/-- How many digits of a fraction count; those after them are passed over. -/
def fractionDigits : Nat := 9

/-- The nanoseconds of the fraction of a second at the start of a text, if there is one; a point
needs a digit after it. -/
def readFraction : List Char → Reading (Nat × List Char)
  | '.' :: rest =>
    let digits := (rest.takeWhile Char.isDigit).take fractionDigits
    if digits.isEmpty then throw .invalid
    else
      let nanos := Nat.ofDigitChars 10 digits 0 * Nat.pow 10 (fractionDigits - digits.length)
      pure (nanos, rest.dropWhile Char.isDigit)
  | cs => pure (0, cs)

/-- The second of the day at the start of a text, and the nanosecond in it. The range of its parts
is looked at after the fraction. A sixty-first second is the leap second after the sixtieth. -/
def readTime (cs : List Char) : Reading ((Nat × Nat) × List Char) := do
  let (hour, cs) ← readDigits 2 cs
  let cs ← readMark (· == ':') cs
  let (minute, cs) ← readDigits 2 cs
  let cs ← readMark (· == ':') cs
  let (second, cs) ← readDigits 2 cs
  let (nanos, cs) ← readFraction cs
  if hour < 24 ∧ minute < 60 ∧ second < 61 then
    let nanosecond := if second = 60 then nanosInSecond + nanos else nanos
    pure ((hour * 3600 + minute * 60 + min second 59, nanosecond), cs)
  else throw .outOfRange

def byteLength (cs : List Char) : Nat :=
  (cs.map Char.utf8Size).foldr (· + ·) 0

/-- Two digits of an offset, whose range is looked at where they are read. -/
def readOffsetPart (bound : Nat) (cs : List Char) : Reading (Nat × List Char) := do
  if byteLength cs < 2 then throw .tooShort
  let (n, cs) ← readDigits 2 cs
  if n < bound then pure (n, cs) else throw .outOfRange

/-- Pass over the offset from universal time: `Z`, or a sign with hours and minutes. -/
def skipOffset : List Char → Reading (List Char)
  | [] => throw .tooShort
  | c :: rest => do
    if c == 'Z' || c == 'z' then pure rest
    else if c == '+' || c == '-' || c == '\u2212' then
      let (hour, cs) ← readOffsetPart 100 rest
      if cs.isEmpty then throw .tooShort
      let cs ← readMark (· == ':') cs
      let (_, cs) ← readOffsetPart 60 cs
      if hour < 24 then pure cs else throw .outOfRange
    else throw .invalid

/-- The least number of bytes of a text. -/
def leastLength : Nat := 19

/-- The instant with the given parts, if they are in range. -/
def ofParts (year day second nanosecond : Nat) : Reading Instant :=
  if h : year < 10000 ∧ day < Calendar.daysInYear year ∧ second < 86400 ∧
      nanosecond < 2 * nanosInSecond ∧ (nanosInSecond ≤ nanosecond → second % 60 = 59) then
    .ok ⟨year, day, second, nanosecond, h.1, h.2.1, h.2.2.1, h.2.2.2.1, h.2.2.2.2⟩
  else .error .outOfRange

/-- The year in which the clock of a computer starts. -/
def clockStart : Nat := 1970

/-- The instant that a clock shows, in seconds since its start. -/
def ofClock (seconds : Nat) : Reading Timestamp :=
  let (year, day) := Calendar.yearAndDayFrom clockStart 10000 (seconds / 86400)
  (ofParts year day (seconds % 86400) 0).map ofInstant

def readChars (cs : List Char) : Reading Instant := do
  if byteLength cs < leastLength then throw .tooShort
  let ((year, day), cs) ← readDate cs
  let cs ← readMark (fun c => c == 'T' || c == 't' || c == ' ') cs
  let ((second, nanosecond), cs) ← readTime cs
  let cs ← skipOffset cs
  if cs.isEmpty then ofParts year day second nanosecond else throw .trailing

def parse (text : String) : Except Error Timestamp :=
  if text.toList.getLast? = some 'Z' then
    match readChars text.toList with
    | .ok instant => .ok (ofInstant instant)
    | .error fault => .error (.malformed text fault)
  else .error (.notUniversal text)

end Timestamp

end PrivacyMapping
