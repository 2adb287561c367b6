/-!
# The calendar

Months and days of the Gregorian calendar, which is taken to hold for every year. A day of a year is
counted from zero, and `dayOfYear?` and `monthAndDay` turn that count into a month with its day and
back.
-/

namespace PrivacyMapping.Calendar

def isLeapYear (year : Nat) : Bool :=
  year % 4 == 0 && (year % 100 != 0 || year % 400 == 0)

def monthLengths (leapYear : Bool) : List Nat :=
  [31, if leapYear then 29 else 28, 31, 30, 31, 30, 31, 31, 30, 31, 30, 31]

def daysInYear (year : Nat) : Nat :=
  if isLeapYear year then 366 else 365

/-- The day of the year, counted from zero, on which a day of a month falls; both are counted from
one. -/
def dayOfYear? (year month day : Nat) : Option Nat :=
  let lengths := monthLengths (isLeapYear year)
  if month = 0 ∨ day = 0 then none
  else match lengths[month - 1]? with
    | none => none
    | some length =>
      if day ≤ length then some ((lengths.take (month - 1)).foldr (· + ·) 0 + (day - 1)) else none

/-- The month and the day, both counted from one, that lie the given number of days after the start
of the month `month`, whose length and those of the months after it are given. -/
def monthAndDayFrom (month : Nat) : List Nat → Nat → Nat × Nat
  | [], day => (month, day + 1)
  | length :: lengths, day =>
    if day < length then (month, day + 1) else monthAndDayFrom (month + 1) lengths (day - length)

def monthAndDay (year day : Nat) : Nat × Nat :=
  monthAndDayFrom 1 (monthLengths (isLeapYear year)) day

/-- The year and the day of that year, counted from zero, that lie the given number of days after
the start of a year, looked for in so many years. -/
def yearAndDayFrom (year : Nat) : Nat → Nat → Nat × Nat
  | 0, day => (year, day)
  | years + 1, day =>
    if day < daysInYear year then (year, day)
    else yearAndDayFrom (year + 1) years (day - daysInYear year)

end PrivacyMapping.Calendar
