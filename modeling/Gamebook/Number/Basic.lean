import Gamebook.Fault
import Gamebook.Number.Decimal
import Gamebook.Text.Numeral

/-!
Numbers of the game: unbounded whole numbers and doubles, kept apart. Whole numbers stay exact among
themselves; beside a double they are rounded to one, and fail when they are too large for that.
Comparison never rounds.
-/
namespace Gamebook

inductive Number where
  | int (value : Int)
  | real (value : Double)
  deriving DecidableEq

namespace Number

def toDouble : Number → Except Fault Double
  | .int value => (Double.ofInt? value).elim (.error .tooLarge) .ok
  | .real x => .ok x

/-- An operation that is exact on whole numbers and rounds as soon as a double takes part. -/
def lift (exact : Int → Int → Int) (rounded : Double → Double → Double) :
    Number → Number → Except Fault Number
  | .int a, .int b => .ok (.int (exact a b))
  | a, b => do return .real (rounded (← a.toDouble) (← b.toDouble))

def add : Number → Number → Except Fault Number := lift (· + ·) Double.add
def sub : Number → Number → Except Fault Number := lift (· - ·) Double.sub
def mul : Number → Number → Except Fault Number := lift (· * ·) Double.mul

def neg : Number → Number
  | .int value => .int (-value)
  | .real x => .real x.neg

def sum (values : List Number) : Except Fault Number := values.foldlM add (.int 0)
def product (values : List Number) : Except Fault Number := values.foldlM mul (.int 1)

def ofRounded : Double → Except Fault Number
  | .infinite _ => .error .tooLarge
  | x => .ok (.real x)

/-- The quotient of two whole numbers is rounded once, from its exact value. -/
def div : Number → Number → Except Fault Number
  | .int a, .int b =>
    ofRounded (Double.ofRatio (decide (a < 0) != decide (b < 0)) (a.natAbs * Double.one) b.natAbs)
  | a, b => do return .real ((← a.toDouble).div (← b.toDouble))

/-- The remainder of truncated division, always a double. -/
def rem (a b : Number) : Except Fault Number := do
  match (← a.toDouble).rem? (← b.toDouble) with
  | some x => return .real x
  | none => throw .badValue

def compare? : Number → Number → Option Ordering
  | .int a, .int b => some (compare a b)
  | .int a, .real y => y.compareInt? a
  | .real x, .int b => (x.compareInt? b).map Ordering.swap
  | .real x, .real y => x.compare? y

def eq (a b : Number) : Bool := a.compare? b = some .eq
def lt (a b : Number) : Bool := a.compare? b = some .lt
def le (a b : Number) : Bool := a.lt b || a.eq b

/-- The first of the least values; a candidate replaces the choice only if it is below it. -/
def least (first : Number) (rest : List Number) : Number :=
  rest.foldl (fun best next => if next.lt best then next else best) first

def greatest (first : Number) (rest : List Number) : Number :=
  rest.foldl (fun best next => if best.lt next then next else best) first

def isZero : Number → Bool
  | .int value => value == 0
  | .real x => x.isZero

def isNaN : Number → Bool
  | .int _ => false
  | .real x => x.isNaN

def isSameNaN : Number → Number → Bool
  | .real x, .real y => x.isSameNaN y
  | _, _ => false

/-- Whether the number is finite; a whole number too large for a double has no answer. -/
def isFinite : Number → Except Fault Bool
  | .int value => (Double.ofInt? value).elim (.error .tooLarge) fun _ => .ok true
  | .real x => .ok x.isFinite

def isWritable : Number → Bool
  | .int value => value.natAbs < 10 ^ Text.maxDigits
  | .real _ => true

end Number
end Gamebook
