/-!
The proleptic Gregorian calendar: day numbers from the first of January of the year 1, which is day
one and a Monday, and the weeks of the international week calendar.
-/
namespace Gamebook.Calendar

structure Date where
  year : Nat
  month : Nat
  day : Nat
  deriving DecidableEq, Repr

def lastYear : Nat := 9999

def isLeap (year : Nat) : Bool := year % 4 == 0 && (year % 100 != 0 || year % 400 == 0)

def monthLengths (year : Nat) : List Nat :=
  [31, if isLeap year then 29 else 28, 31, 30, 31, 30, 31, 31, 30, 31, 30, 31]

def daysInMonth (year month : Nat) : Nat := (monthLengths year)[month - 1]?.getD 0

def daysBeforeYear (year : Nat) : Nat :=
  let past := year - 1
  past * 365 + past / 4 - past / 100 + past / 400

def Date.isValid (date : Date) : Bool :=
  1 ≤ date.year && date.year ≤ lastYear && 1 ≤ date.month && date.month ≤ 12 && 1 ≤ date.day
    && date.day ≤ daysInMonth date.year date.month

-- A sum begins with the numeral, also where algebra has a zero of its own.
attribute [local instance (high)] Zero.ofOfNat0

def Date.number (date : Date) : Nat :=
  daysBeforeYear date.year + ((monthLengths date.year).take (date.month - 1)).sum + date.day

def yearOf (number : Nat) : Nat :=
  let guess := number / 366 + 1
  guess + ((List.range (number / 100000 + 2)).filter fun more =>
    daysBeforeYear (guess + more + 1) < number).length

/-- Month and day of the day with this place in a year, counting months from `month`. -/
def monthAndDay (month : Nat) : List Nat → Nat → Nat × Nat
  | [], day => (month, day)
  | length :: rest, day => if day ≤ length then (month, day) else monthAndDay (month + 1) rest (day - length)

def Date.ofNumber (number : Nat) : Date :=
  let year := yearOf number
  let (month, day) := monthAndDay 1 (monthLengths year) (number - daysBeforeYear year)
  ⟨year, month, day⟩

/-- The Monday of the first week of a year: the week that holds its first Thursday. -/
def firstMonday (year : Nat) : Int :=
  let first := daysBeforeYear year + 1
  let weekday := (first + 6) % 7
  (first : Int) - weekday + if 3 < weekday then 7 else 0

/-- A year has a week 53 if it begins on a Thursday, or on a Wednesday and is a leap year. -/
def weeksIn (year : Nat) : Nat :=
  let weekday := (daysBeforeYear year + 1) % 7
  if weekday = 4 || (weekday = 3 && isLeap year) then 53 else 52

def Date.ofWeek? (year week weekday : Nat) : Option Date :=
  if 1 ≤ year && year ≤ lastYear && 1 ≤ week && week ≤ weeksIn year && 1 ≤ weekday && weekday ≤ 7
  then
    let number := firstMonday year + (week - 1) * 7 + (weekday - 1)
    if number < 1 then none else some (Date.ofNumber number.toNat)
  else none

end Gamebook.Calendar
