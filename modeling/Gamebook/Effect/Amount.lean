import Gamebook.Failure
import Gamebook.Value.Arithmetic

/-!
The arithmetic of effects: amounts read from documents, one operation on a current value, and the
floors under balances, quantities and stats, which are whole numbers rounded down. A current value
that is no number takes part in what can be done with its kind.
-/
namespace Gamebook.Effect

inductive Operation where
  | add
  | subtract
  | set
  | multiply
  deriving DecidableEq

namespace Operation

def name : Operation → String
  | .add => "add"
  | .subtract => "subtract"
  | .set => "set"
  | .multiply => "multiply"

def all : List Operation := [.add, .subtract, .set, .multiply]

def ofName? (name : String) : Option Operation := all.find? (·.name = name)

end Operation

def refuse {α : Type} (problem : EffectProblem) : Outcome α := .error (.effect problem)

/-- A real without a fraction becomes the whole number; one that is not finite is refused. -/
def settle (context : String) (x : Double) : Outcome Number :=
  match x.toInt? with
  | some value => .ok (.int value)
  | none => if x.isFinite then .ok (.real x) else refuse (.amountNotFinite context)

def amountOf (context : String) : Value → Outcome Number
  | .bool _ => refuse (.amountBoolean context)
  | .int value => .ok (.int value)
  | .real x => settle context x
  | .text text =>
    let trimmed := Text.trim text.toList
    match Text.readInt? trimmed, Text.readReal? trimmed with
    | some value, _ => .ok (.int value)
    | none, some x => settle context x
    | none, none => refuse (.amountNotNumeric context text)
  | value => refuse (.amountOfKind context value.kind)

/-- Refuses with a message that shows both values, if they can be written at all. -/
def refuseResult {α : Type} (problem : String → Value → Value → EffectProblem)
    (operation : Operation) (current amount : Value) : Outcome α :=
  if current.isWritable && amount.isWritable then refuse (problem operation.name amount current)
  else .error (.fault .badValue)

def Operation.apply (operation : Operation) (current amount : Value) : Except Fault Value :=
  match operation with
  | .add => current.add amount
  | .subtract => current.sub amount
  | .set => .ok amount
  | .multiply => current.mul amount

def combine (operation : Operation) (current amount : Value) : Outcome Value :=
  match operation.apply current amount with
  | .error .tooLarge => refuseResult .outOfRange operation current amount
  | .error fault => .error (.fault fault)
  | .ok (.real x) =>
    if x.isFinite then .ok (.real x) else refuseResult .notFinite operation current amount
  | .ok value => .ok value

def combineNamed (operation : String) (current amount : Value) : Outcome Value :=
  match Operation.ofName? operation with
  | some operation => combine operation current amount
  | none => refuse (.unknownOperation operation)

/-- The largest whole number not above a number; a boolean stays one. -/
def wholeOf : Value → Outcome Value
  | .int value => .ok (.int value)
  | .bool value => .ok (.bool value)
  | .real x => match x.floor? with
    | some value => .ok (.int value)
    | none => refuse (.notWhole x)
  | _ => .error (.fault .wrongKind)

def raise (floor : Int) (value : Value) : Value :=
  match value.whole? with
  | some whole => if floor < whole then value else .int floor
  | none => value

def nextWhole (floor : Int) (operation : String) (current amount : Value) : Outcome Value := do
  return raise floor (← wholeOf (← combineNamed operation current amount))

def balanceFloor : Int := 0
def quantityFloor : Int := 0
def statFloor : Int := 1

def nextBalance : String → Value → Value → Outcome Value := nextWhole balanceFloor
def nextQuantity : String → Value → Value → Outcome Value := nextWhole quantityFloor
def nextStat : String → Value → Value → Outcome Value := nextWhole statFloor

/-- The next value of a flag: a set flag holds the value as given; arithmetic needs numbers on both
sides, and an absent flag counts as zero. -/
def nextFlag (flag : String) (operation : String) (current amount : Value) : Outcome Value :=
  match Operation.ofName? operation with
  | none => refuse (.unknownOperation operation)
  | some .set => .ok amount
  | some arithmetic =>
    let current := current.present?.getD (.int 0)
    if amount.number?.isNone then
      if amount.isWritable then refuse (.flagAmount operation flag amount)
      else .error (.fault .badValue)
    else if current.number?.isNone then
      if current.isWritable then refuse (.flagHolds operation flag current)
      else .error (.fault .badValue)
    else combine arithmetic current amount

end Gamebook.Effect
