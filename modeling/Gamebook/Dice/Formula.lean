import Gamebook.Failure

/-!
Dice formulas: how many dice, how many sides each of them has, and what is added to their sum, as in
`2d6+3`. Blanks mean nothing, decimal digits of every script count, and at least one die with two
sides is needed.
-/
namespace Gamebook

structure DiceFormula where
  count : Nat
  sides : Nat
  modifier : Int
  count_pos : 1 ≤ count
  two_le_sides : 2 ≤ sides
  deriving DecidableEq

namespace DiceFormula

def isSingleD20 (formula : DiceFormula) : Bool := formula.count == 1 && formula.sides == 20

def withModifier (modifier : Int) (formula : DiceFormula) : DiceFormula :=
  { formula with modifier := modifier }

def renderModifier (modifier : Int) : String :=
  if 0 < modifier then "+" ++ toString modifier
  else if modifier < 0 then toString modifier
  else ""

def render (formula : DiceFormula) : String :=
  toString formula.count ++ "d" ++ toString formula.sides ++ renderModifier formula.modifier

def isModifierText : List Char → Bool
  | [] => true
  | sign :: digits =>
    (sign = '+' || sign = '-') && !digits.isEmpty && digits.all Text.isDecimal

/-- The count, the sides and the signed modifier of a formula without blanks, as they are
written. -/
def split? (text : List Char) : Option (List Char × List Char × List Char) :=
  let count := text.takeWhile Text.isDecimal
  match text.dropWhile Text.isDecimal with
  | mark :: rest =>
    let sides := rest.takeWhile Text.isDecimal
    let modifier := rest.dropWhile Text.isDecimal
    if !count.isEmpty && (mark = 'd' || mark = 'D') && !sides.isEmpty && isModifierText modifier
    then some (count, sides, modifier) else none
  | [] => none

def readNumber (digits : List Char) : Outcome Int :=
  match Text.readInt? digits with
  | some value => .ok value
  | none => .error (.fault .badValue)

def readModifier (text : List Char) : Outcome Int := if text.isEmpty then .ok 0 else readNumber text

def ofText (text : String) : Outcome DiceFormula :=
  match split? (text.toList.filter fun c => !Text.isBlank c) with
  | none => .error (.diceFormula (.text text))
  | some (count, sides, modifier) => do
    let count ← readNumber count
    let sides ← readNumber sides
    let modifier ← readModifier modifier
    if enough : 1 ≤ count.toNat ∧ 2 ≤ sides.toNat then
      return ⟨count.toNat, sides.toNat, modifier, enough.1, enough.2⟩
    else throw (.diceCount text)

def ofValue : Value → Outcome DiceFormula
  | .text text => ofText text
  | given => Failure.showing given (.diceFormula given)

end DiceFormula
end Gamebook
