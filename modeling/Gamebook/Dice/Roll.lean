import Gamebook.Dice.Formula
import Gamebook.Random.Source

/-!
Rolls of dice formulas. A single die with twenty sides always succeeds on twenty and always fails on
one; otherwise the total decides, if there is a difficulty to compare it with. A check adds the
modifier of a stat to a base formula and rolls the sum.
-/
namespace Gamebook

structure RollResult where
  total : Int
  rolls : List Int
  modifier : Int
  formula : String
  /-- None without a difficulty, unless the roll is critical. -/
  success : Option Bool
  criticalSuccess : Bool
  criticalFailure : Bool
  /-- Null without a difficulty. -/
  difficulty : Value
  /-- The stat that was checked. -/
  stat : Option String

namespace RollResult

def reaches (total : Int) (difficulty : Value) : Except Fault (Option Bool) :=
  match difficulty.present?, difficulty.countable? with
  | none, _ => .ok none
  | some _, some least => .ok (some (least.le (.int total)))
  | some _, none => .error .wrongKind

attribute [local instance (high)] Zero.ofOfNat0

def ofFaces (formula : DiceFormula) (written : String) (difficulty : Value) (faces : List Int) :
    Except Fault RollResult := do
  let total := faces.sum + formula.modifier
  let criticalSuccess := formula.isSingleD20 && faces.head? == some 20
  let criticalFailure := formula.isSingleD20 && faces.head? == some 1
  let success ← if criticalSuccess || criticalFailure then pure (some criticalSuccess)
    else reaches total difficulty
  return {
    total := total
    rolls := faces
    modifier := formula.modifier
    formula := written
    success := success
    criticalSuccess := criticalSuccess
    criticalFailure := criticalFailure
    difficulty := difficulty
    stat := none }

def toFields (roll : RollResult) : Table Value :=
  [("total", .int roll.total), ("rolls", .list (roll.rolls.map .int)),
    ("modifier", .int roll.modifier), ("formula", .text roll.formula),
    ("success", (roll.success.map Value.bool).getD .null),
    ("criticalSuccess", .bool roll.criticalSuccess),
    ("criticalFailure", .bool roll.criticalFailure)] ++
  (roll.difficulty.present?.map fun difficulty => ("difficulty", difficulty)).toList ++
  (roll.stat.map fun stat => ("stat", .text stat)).toList

end RollResult

/-- The modifier of a stat: half of what it is above ten, rounded down after the division. -/
def statModifier (stat : Value) : Except Fault Int :=
  match stat.countable? with
  | none => .error .wrongKind
  | some number => do
    match ← (← number.sub (.int 10)).div (.int 2) with
    | .int half => return half
    | .real half => match half.floor? with
      | some modifier => return modifier
      | none => throw (if half.isNaN then .badValue else .tooLarge)

def checkFormula (base : Value) (stat : Value) : Outcome DiceFormula := do
  let base ← DiceFormula.ofValue base
  let formula := base.withModifier (base.modifier + (← Fault.lift (statModifier stat)))
  if (Number.int formula.modifier).isWritable then return formula else throw (.fault .badValue)

namespace Generator
variable {σ : Type} (generator : Generator σ)

def rollParsed (formula : DiceFormula) (written : String) (difficulty : Value) :
    Drawing σ RollResult := do
  let faces ← generator.drawMany 1 formula.sides formula.count
  liftExcept (Fault.lift (RollResult.ofFaces formula written difficulty faces))

def roll (written difficulty : Value) : Drawing σ RollResult := do
  generator.rollParsed (← liftExcept (DiceFormula.ofValue written)) written.asText difficulty

/-- Rolls a check; the formula is recorded with the modifier that was added. -/
def check (stat difficulty base : Value) : Drawing σ RollResult := do
  let formula ← liftExcept (checkFormula base stat)
  generator.rollParsed formula formula.render difficulty

end Generator
end Gamebook
