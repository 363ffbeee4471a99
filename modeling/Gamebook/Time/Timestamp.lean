import Gamebook.Text.CharClass
import Gamebook.Text.Spelling
import Gamebook.Time.Calendar

/-!
Points in time as saved games write them: a local date and time to the microsecond with an offset
from universal time, which may be unknown. Reading accepts the calendar and week forms with or
without separators, any single character between date and time, fractions of any length (digits past
the sixth are dropped) and offsets to the microsecond; writing has one form.
-/
namespace Gamebook

structure Clock where
  hour : Nat
  minute : Nat
  second : Nat
  micro : Nat
  deriving DecidableEq, Repr

structure Timestamp where
  date : Calendar.Date
  clock : Clock
  /-- Microseconds ahead of universal time. -/
  offset : Option Int
  deriving DecidableEq, Repr

namespace Clock

def isValid (clock : Clock) : Bool := clock.hour ≤ 23 && clock.minute ≤ 59 && clock.second ≤ 59

def micros (clock : Clock) : Nat :=
  ((clock.hour * 60 + clock.minute) * 60 + clock.second) * 1000000 + clock.micro

def ofMicros (micros : Nat) : Clock :=
  let seconds := micros / 1000000
  ⟨seconds / 3600, seconds / 60 % 60, seconds % 60, micros % 1000000⟩

end Clock

namespace Timestamp

def dayMicros : Nat := 86400 * 1000000

/-- Microseconds of universal time; an unknown offset is taken for none. -/
def universal (time : Timestamp) : Int :=
  (time.date.number * dayMicros + time.clock.micros : Int) - time.offset.getD 0

def orUniversal (time : Timestamp) : Timestamp := { time with offset := some (time.offset.getD 0) }

def unixDay : Nat := 719163

def ofUnixMicros (micros : Nat) : Timestamp :=
  ⟨Calendar.Date.ofNumber (unixDay + micros / dayMicros), Clock.ofMicros (micros % dayMicros), some 0⟩

def digits? (count : Nat) (text : List Char) : Option (Nat × List Char) :=
  let digits := text.take count
  if digits.length = count && digits.all Char.isDigit then
    some (Nat.ofDigitChars 10 digits 0, text.drop count)
  else none

def peek (text : List Char) : Char := text.headD '\x00'

def weekDate? (year : Nat) (separated : Bool) (more : Bool) (text : List Char) :
    Option Calendar.Date := do
  let (week, rest) ← digits? 2 text
  if more then
    if separated && peek rest != '-' then none
    else
      let (weekday, _) ← digits? 1 (if separated then rest.drop 1 else rest)
      Calendar.Date.ofWeek? year week weekday
  else Calendar.Date.ofWeek? year week 1

def date? (text : List Char) (length : Nat) : Option Calendar.Date := do
  let (year, rest) ← digits? 4 text
  let separated := peek rest == '-'
  let rest := if separated then rest.drop 1 else rest
  if peek rest = 'W' then
    weekDate? year separated ((if separated then 8 else 7) < length) (rest.drop 1)
  else
    let (month, rest) ← digits? 2 rest
    if separated && peek rest != '-' then none
    else
      let (day, _) ← digits? 2 (if separated then rest.drop 1 else rest)
      if length = (if separated then 10 else 8) then some ⟨year, month, day⟩ else none

/-- Where the date ends. Where a week date leaves it open whether a digit or a dash separates date
and time, the dash does. -/
def dateLength? (text : List Char) : Option Nat :=
  let at? (place : Nat) : Char := peek (text.drop place)
  if text.length < 7 then none
  else if text.length = 7 then some 7
  else if at? 4 = '-' then
    if at? 5 = 'W' then
      if text.length > 8 && at? 8 = '-' then
        if text.length = 9 then none
        else if text.length > 10 && (at? 10).isDigit then some 8 else some 10
      else some 8
    else some 10
  else if at? 4 = 'W' then
    let digits := 7 + ((text.drop 7).takeWhile Char.isDigit).length
    if digits < 9 then some digits else if digits % 2 = 0 then some 7 else some 8
  else some 8

/-- Microseconds from the digits of a fraction, of which the first six count; and whether anything
follows them. -/
def fraction? (span : Nat) (text : List Char) : Option (Nat × Bool) := do
  let taken := min 6 span
  let (value, rest) ← digits? taken text
  return (value * 10 ^ (6 - taken), peek (rest.dropWhile Char.isDigit) != '\x00')

/-- Hours, minutes and seconds, as many of them as `parts`, in the first `span` characters, and the
fraction after them; the flag says whether anything follows. -/
def parts? (separated : Option Bool) : Nat → Nat → List Char → Option (List Nat × Nat × Bool)
  | 0, span, text => do
    let (micro, more) ← fraction? span text
    return ([], micro, more)
  | parts + 1, span, text => do
    let (value, rest) ← digits? 2 text
    let mark := peek rest
    let separated := separated.getD (mark == ':')
    if span ≤ 3 then return ([value], 0, mark != '\x00')
    else if mark = '.' || mark = ',' then
      let (micro, more) ← fraction? (span - 3) (rest.drop 1)
      return ([value], micro, more)
    else if separated && mark != ':' then none
    else
      let width := if separated then 3 else 2
      let (values, result) ← parts? (some separated) parts (span - width) (text.drop width)
      return (value :: values, result)

def clock? (span : Nat) (text : List Char) : Option (Clock × Bool) := do
  let (values, micro, more) ← parts? none 3 span text
  let part (place : Nat) : Nat := values[place]?.getD 0
  return (⟨part 0, part 1, part 2, micro⟩, more)

def isZoneMark (c : Char) : Bool := c = '+' || c = '-' || c = 'Z'

/-- An offset after its sign. Whole seconds of zero mean universal time whatever the fraction. -/
def offset? (negative : Bool) (text : List Char) : Option Int := do
  let (clock, more) ← clock? text.length text
  if more then none
  else
    let micros : Int := if clock.micros < 1000000 then 0 else clock.micros
    if micros < dayMicros then some (if negative then -micros else micros) else none

def time? (text : List Char) : Option (Clock × Option Int) := do
  let before := text.takeWhile (!isZoneMark ·)
  let (clock, more) ← clock? before.length text
  match text.drop before.length with
  | [] => if more then none else some (clock, none)
  | 'Z' :: rest => if peek rest = '\x00' then some (clock, some 0) else none
  | sign :: rest => do return (clock, some (← offset? (sign == '-') rest))

def separatorPlaces : List Nat := [7, 8, 10]

def plainSeparator (signs : List (List Char)) : List (List Char) :=
  match separatorPlaces.find? fun place => (signs[place]?.bind Text.half?).isSome with
  | some place => signs.set place ['T']
  | none => signs

def spread (c : Char) : List Char := c :: List.replicate (c.utf8Size - 1) '\x80'

/-- A point in time from text without blanks around it. Spans are counted in bytes, so text with
halves of surrogate pairs is none. -/
def ofText? (text : String) : Option Timestamp := do
  let chars ← Text.chars? (String.ofList (plainSeparator (Text.signs text.toList)).flatten)
  let text := chars.flatMap spread
  let length ← dateLength? text
  let date ← date? text length
  let (clock, offset) ← match text.drop length with
    | [] => some (⟨0, 0, 0, 0⟩, none)
    | separator :: rest => time? (rest.drop (separator.utf8Size - 1))
  if date.isValid && clock.isValid then some ⟨date, clock, offset⟩ else none

/-- A point in time as saved games hold it: blanks may surround it, a final `Z` stands for universal
time, and so does a missing offset. -/
def ofSaved? (text : String) : Option Timestamp :=
  let trimmed := Text.trim text.toList
  let spelled := if trimmed.getLast? = some 'Z' then trimmed.dropLast ++ "+00:00".toList else trimmed
  (ofText? (String.ofList spelled)).map orUniversal

/-- Whether one point in time is past another; only two known offsets or two unknown ones
compare. -/
def isAfter? (a b : Timestamp) : Option Bool :=
  if a.offset.isSome = b.offset.isSome then some (decide (b.universal < a.universal)) else none

def sameInstant (a b : Timestamp) : Bool :=
  a.offset.isSome == b.offset.isSome && a.universal == b.universal

def padded (width value : Nat) : List Char :=
  let digits := Nat.toDigits 10 value
  List.replicate (width - digits.length) '0' ++ digits

def clockText (withSeconds : Bool) (clock : Clock) : List Char :=
  padded 2 clock.hour ++ ':' :: padded 2 clock.minute
    ++ (if withSeconds || clock.second != 0 || clock.micro != 0 then ':' :: padded 2 clock.second
      else [])
    ++ (if clock.micro = 0 then [] else '.' :: padded 6 clock.micro)

def offsetText (offset : Int) : List Char :=
  (if offset < 0 then '-' else '+') :: clockText false (Clock.ofMicros offset.natAbs)

def text (time : Timestamp) : String :=
  let date := time.date
  String.ofList (padded 4 date.year ++ '-' :: padded 2 date.month ++ '-' :: padded 2 date.day
    ++ 'T' :: clockText true time.clock ++ (time.offset.map offsetText).getD [])

end Timestamp
end Gamebook
