import Gamebook.Number.Double
import Gamebook.Text.CharClass

/-!
Numbers read from text. Decimal digits of every script count, single underscores may stand between
digits, a sign may stand in front; reals may have a fraction and an exponent or be one of the words
for infinity and not-a-number in any case. Whole numbers have at most `maxDigits` digits.
-/
namespace Gamebook.Text

def maxDigits : Nat := 4300

def asciiDigit (c : Char) : Char := ((digitValue? c).map Nat.digitChar).getD c

/-- Leaves out single underscores between digits; any other underscore spoils the text. -/
def joinDigits? (afterDigit : Bool) : List Char → Option (List Char)
  | [] => some []
  | '_' :: c :: rest =>
    if afterDigit && c.isDigit then (joinDigits? true rest).map (c :: ·) else none
  | c :: rest => if c = '_' then none else (joinDigits? c.isDigit rest).map (c :: ·)

/-- The sign in front of a numeral, true for minus, and what follows it. -/
def splitSign : List Char → Bool × List Char
  | '-' :: rest => (true, rest)
  | '+' :: rest => (false, rest)
  | text => (false, text)

def readNat? (digits : List Char) : Option Nat :=
  if digits.isEmpty || !digits.all Char.isDigit then none else some (Nat.ofDigitChars 10 digits 0)

def applySign (negative : Bool) (value : Nat) : Int := if negative then -value else value

def readInt? (text : List Char) : Option Int := do
  let (negative, body) := splitSign (text.map asciiDigit)
  let digits ← joinDigits? false body
  let value ← readNat? digits
  if maxDigits < digits.length then none else some (applySign negative value)

def readExponent? : List Char → Option Int
  | [] => some 0
  | mark :: text =>
    let (negative, digits) := splitSign text
    if mark.toLower = 'e' then (readNat? digits).map (applySign negative) else none

def readDecimal? (negative : Bool) (text : List Char) : Option Double := do
  let whole := text.takeWhile Char.isDigit
  let (fraction, rest) := match text.dropWhile Char.isDigit with
    | '.' :: rest => (rest.takeWhile Char.isDigit, rest.dropWhile Char.isDigit)
    | rest => ([], rest)
  let digits ← readNat? (whole ++ fraction)
  let exponent ← readExponent? rest
  return Double.ofDecimal negative digits (exponent - fraction.length)

def readReal? (text : List Char) : Option Double := do
  let (negative, body) := splitSign (text.map asciiDigit)
  let body ← joinDigits? false body
  let word := String.ofList (body.map Char.toLower)
  if word = "nan" then return .nan none
  else if word = "inf" || word = "infinity" then return .infinite negative
  else readDecimal? negative body

end Gamebook.Text
