/-!
Double-precision reals, exact and without hardware. A finite magnitude is a whole number of units
of `2 ^ -1074`; `Fits` says which magnitudes the format holds. Every operation is exact integer
arithmetic followed by one rounding to the nearest, halves to even.
-/

-- Powers of whole numbers are those that programs run with, also where monoids have their own.
attribute [instance (high), default_instance 20000] instPowNat

namespace Gamebook

/-- A magnitude in units of `2 ^ -1074` with at most 53 significant bits, below `2 ^ 1024`. -/
def Fits (units : Nat) : Prop := units < 2 ^ 2098 ∧ 2 ^ (units.log2 - 52) ∣ units

instance (units : Nat) : Decidable (Fits units) :=
  inferInstanceAs (Decidable (_ ∧ _))

inductive Double where
  /-- Not-a-number. A mark says which one it is; without a mark it is like no other. -/
  | nan (mark : Option Nat)
  | infinite (negative : Bool)
  | finite (negative : Bool) (units : Nat) (fits : Fits units)
  deriving DecidableEq

namespace Double

def one : Nat := 2 ^ 1074

/-- The whole number nearest to `num / den`; a half goes to the even neighbour. -/
def roundHalfEven (num den : Nat) : Nat :=
  let below := num / den
  let rest := 2 * (num % den)
  if rest < den then below
  else if den < rest then below + 1
  else below + below % 2

/-- The gap between neighbouring doubles around `num / den` units. -/
def spacing (num den : Nat) : Nat := 2 ^ ((num / den).log2 - 52)

def nearest (num den : Nat) : Nat :=
  roundHalfEven num (den * spacing num den) * spacing num den

/-- A magnitude past the largest double becomes infinite. -/
def ofUnits (negative : Bool) (units : Nat) : Double :=
  if fits : Fits units then .finite negative units fits else .infinite negative

def ofRatio (negative : Bool) (num den : Nat) : Double := ofUnits negative (nearest num den)

def withSign (negative : Bool) (units : Nat) : Int := if negative then -units else units

def signed? : Double → Option Int
  | .finite negative units _ => some (withSign negative units)
  | _ => none

def isNaN : Double → Bool
  | .nan _ => true
  | _ => false

def isSameNaN : Double → Double → Bool
  | .nan (some mark), .nan (some other) => mark == other
  | _, _ => false

def isFinite : Double → Bool
  | .finite .. => true
  | _ => false

def isZero : Double → Bool
  | .finite _ units _ => units == 0
  | _ => false

def finite? : Double → Option Double
  | .finite negative units fits => some (.finite negative units fits)
  | _ => none

def ofInt? (value : Int) : Option Double := (ofRatio (value < 0) (value.natAbs * one) 1).finite?

def neg : Double → Double
  | .nan _ => .nan none
  | .infinite negative => .infinite (!negative)
  | .finite negative units fits => .finite (!negative) units fits

/-- An exact sum of zero is negative only if both terms are. -/
def add : Double → Double → Double
  | .nan _, _ | _, .nan _ => .nan none
  | .infinite a, .infinite b => if a = b then .infinite a else .nan none
  | .infinite a, .finite .. => .infinite a
  | .finite .., .infinite b => .infinite b
  | .finite a m _, .finite b n _ =>
    let sum := withSign a m + withSign b n
    if sum = 0 then ofUnits (a && b) 0 else ofRatio (sum < 0) sum.natAbs 1

def sub (x y : Double) : Double := x.add y.neg

def mul : Double → Double → Double
  | .nan _, _ | _, .nan _ => .nan none
  | .infinite a, .infinite b => .infinite (a != b)
  | .infinite a, .finite b n _ => if n = 0 then .nan none else .infinite (a != b)
  | .finite a m _, .infinite b => if m = 0 then .nan none else .infinite (a != b)
  | .finite a m _, .finite b n _ => ofRatio (a != b) (m * n) one

def div : Double → Double → Double
  | .nan _, _ | _, .nan _ => .nan none
  | .infinite _, .infinite _ => .nan none
  | .infinite a, .finite b _ _ => .infinite (a != b)
  | .finite a _ _, .infinite b => ofUnits (a != b) 0
  | .finite a m _, .finite b n _ =>
    if n = 0 then (if m = 0 then .nan none else .infinite (a != b))
    else ofRatio (a != b) (m * one) n

/-- The remainder of truncated division; it has the sign of the dividend. Absent where no number
is the remainder: an infinite dividend, or a zero divisor. -/
def rem? : Double → Double → Option Double
  | .nan _, _ | _, .nan _ => some (.nan none)
  | .infinite _, _ => none
  | .finite a m fits, .infinite _ => some (.finite a m fits)
  | .finite a m _, .finite _ n _ => if n = 0 then none else some (ofUnits a (m % n))

def compare? : Double → Double → Option Ordering
  | .nan _, _ | _, .nan _ => none
  | .infinite a, .infinite b => some (compare b a)
  | .infinite a, .finite .. => some (if a then .lt else .gt)
  | .finite .., .infinite b => some (if b then .gt else .lt)
  | .finite a m _, .finite b n _ =>
    some (compare (withSign a m) (withSign b n))

def compareInt? (value : Int) : Double → Option Ordering
  | .nan _ => none
  | .infinite negative => some (if negative then .gt else .lt)
  | .finite negative units _ => some (compare (value * one) (withSign negative units))

def toInt? (x : Double) : Option Int :=
  x.signed?.bind fun value => if value % one = 0 then some (value / one) else none

def floor? (x : Double) : Option Int := x.signed?.map (· / one)

def truncate? (x : Double) : Option Int := x.signed?.map (·.tdiv one)

/-- The double nearest to `digits * 10 ^ exponent`. Magnitudes far outside the format are decided
by their order of magnitude, so that no huge power is computed. -/
def ofDecimal (negative : Bool) (digits : Nat) (exponent : Int) : Double :=
  let magnitude := (Nat.toDigits 10 digits).length + exponent
  if digits = 0 then ofUnits negative 0
  else if 400 < magnitude then .infinite negative
  else if magnitude < -400 then ofUnits negative 0
  else ofRatio negative (digits * one * 10 ^ exponent.toNat) (10 ^ (-exponent).toNat)

end Double
end Gamebook
