import Gamebook.Number.Double

/-!
Reals as decimal text: the fewest significant digits that read back as the same double, and of
those the nearest to it. The text is positional for magnitudes from `1e-4` up to `1e16` and
scientific outside.
-/
namespace Gamebook

structure Decimal where
  digits : Nat
  exponent : Int

namespace Decimal

/-- The quotient and divisor of a magnitude on the grid of multiples of `10 ^ exponent`. -/
def scaled (units : Nat) (exponent : Int) : Nat × Nat :=
  (units * 10 ^ (-exponent).toNat, Double.one * 10 ^ exponent.toNat)

def readsAs (units : Nat) (decimal : Decimal) : Bool :=
  (Double.ofDecimal false decimal.digits decimal.exponent).signed? = some (units : Int)

/-- The better of the two neighbours on a decimal grid, if one of them reads back. -/
def onGrid? (units : Nat) (exponent : Int) : Option Decimal :=
  let (num, den) := scaled units exponent
  let below : Decimal := ⟨num / den, exponent⟩
  let above : Decimal := ⟨num / den + 1, exponent⟩
  let near : Decimal := ⟨Double.roundHalfEven num den, exponent⟩
  if readsAs units near then some near
  else if readsAs units below then some below
  else if readsAs units above then some above
  else none

def leadingPower (units : Nat) : Int :=
  (Nat.repr (units * 10 ^ 400 / Double.one)).length - 401

/-- The shortest decimal of a positive magnitude. The coarsest grid is one power above the leading
digit, since rounding may carry there. Seventeen digits always suffice; the exact expansion stands
behind them. -/
def shortest (units : Nat) : Decimal :=
  let power := leadingPower units + 1
  ((List.range 18).findSome? fun more => onGrid? units (power - (more : Nat))).getD
    ⟨units * 5 ^ 1074, -1074⟩

def zeros (count : Int) : List Char := List.replicate count.toNat '0'

def signedExponent (value : Int) : List Char :=
  let digits := Nat.toDigits 10 value.natAbs
  (if value < 0 then '-' else '+') :: (zeros (2 - digits.length) ++ digits)

def text (decimal : Decimal) : List Char :=
  let digits := Nat.toDigits 10 decimal.digits
  let point := digits.length + decimal.exponent
  if -4 < point ∧ point ≤ 16 then
    if point ≤ 0 then '0' :: '.' :: (zeros (-point) ++ digits)
    else digits.take point.toNat ++ zeros decimal.exponent ++ '.' ::
      (if decimal.exponent < 0 then digits.drop point.toNat else ['0'])
  else digits.take 1 ++ (if digits.length = 1 then [] else '.' :: digits.drop 1) ++
    'e' :: signedExponent (point - 1)

end Decimal

namespace Double

def magnitudeText (units : Nat) : List Char :=
  if units = 0 then ['0', '.', '0'] else (Decimal.shortest units).text

structure Words where
  nan : String
  infinity : String

def Words.json : Words := ⟨"NaN", "Infinity"⟩

def textWith (words : Words) : Double → String
  | .nan _ => words.nan
  | .infinite negative => (if negative then "-" else "") ++ words.infinity
  | .finite negative units _ =>
    String.ofList ((if negative then ['-'] else []) ++ magnitudeText units)

def text : Double → String := textWith ⟨"nan", "inf"⟩

end Double
end Gamebook
