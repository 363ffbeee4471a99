import Gamebook.Dice.Roll
import Gamebook.Play.Gate

/-!
Taking a choice: the gate lets it through, its target is looked up, its rolls are made, its effects
run on a copy of the state, and the choice, the move and the turn are recorded. A failed roll does
not stop it. States with a seed roll from their seed and the length of their history; only states
without one draw from the generator that is shared.
-/
namespace Gamebook
variable [Host]

structure Transition where
  previous : String
  next : String
  applied : List EffectDef
  state : GameState
  rolls : List RollResult

def defaultFormula : String := "1d20"

/-- An empty formula counts as none. -/
def RollRequirement.formulaText (requirement : RollRequirement) : String :=
  match requirement.formula with
  | some formula => if formula = "" then defaultFormula else formula
  | none => defaultFormula

namespace Generator
variable {σ : Type} (generator : Generator σ)

def resolve (stats : Loose Dict) (requirement : RollRequirement) : Drawing σ RollResult := do
  let key : Value := .text requirement.stat
  if !(← liftExcept (Fault.lift (stats.hasKey key))) then throw (.unknownStat requirement.stat)
  match stats with
  | .other _ => throw (.fault .wrongKind)
  | .known dict =>
    let stat := (dict.get? key).getD .null
    let formula := requirement.formulaText
    let roll ← generator.check stat (.int requirement.difficulty) (.text formula)
    return { roll with stat := some requirement.stat }

def resolveAll (stats : Loose Dict) : List RollRequirement → Drawing σ (List RollResult)
  | [] => return []
  | requirement :: requirements => do
    let roll ← generator.resolve stats requirement
    return roll :: (← resolveAll stats requirements)

end Generator

namespace Navigator

def advance (now : Timestamp) (selection : Selection) (target : StoryNode) (state : GameState) :
    Outcome (List EffectDef × GameState) := do
  let copy ← Fault.lift state.copy
  let batch := Effect.applyAll now selection.choice.effects copy
  match batch.broken with
  | some fault => throw (.fault fault)
  | none =>
    let logged ← Fault.lift (batch.state.recordChoice now (.text selection.node.id)
      (.int selection.index) (.text selection.choice.text))
    let moved ← Fault.lift (logged.moveTo now (.text target.id))
    return (batch.applied, ← Fault.lift (Effect.passTurn moved))

variable {σ : Type}

def take (navigator : Navigator) (generator : Generator σ) (now : Timestamp) (state : GameState)
    (index : Value) : Drawing σ Transition := do
  let selection ← liftExcept (navigator.gate state index)
  let target ← liftExcept (navigator.node (.text selection.choice.target))
  let rolls ← generator.resolveAll state.stats selection.choice.rollRequirements
  let (applied, next) ← liftExcept (advance now selection target state)
  return ⟨selection.node.id, target.id, applied, next, rolls⟩

def takeSeeded (navigator : Navigator) (seed : Seed) (now : Timestamp) (state : GameState)
    (index : Value) : Outcome Transition :=
  match navigator.take RandomSource.generator now state index (.ofSeed seed) with
  | .ok transition _ => .ok transition
  | .error failure _ => .error failure

def nextSeed? (state : GameState) : Except Fault (Option Seed) :=
  match state.seed.present? with
  | none => .ok none
  | some seed =>
    if seed.isWritable then do
      let count ← state.choiceCount
      return some (← Seed.ofText s!"{seed.asText}-{count}")
    else .error .badValue

/-- Takes a choice with the state's own seed, or else with the shared generator. -/
def makeChoice (navigator : Navigator) (generator : Generator σ) (now : Timestamp)
    (state : GameState) (index : Value) : Drawing σ Transition := do
  match ← liftExcept (Fault.lift (nextSeed? state)) with
  | some seed => liftExcept (navigator.takeSeeded seed now state index)
  | none => navigator.take generator now state index

/-- Shows what a choice would do. Without a seed of the state's own, the given one is used. -/
def preview (navigator : Navigator) (generator : Generator σ) (chance : Seed) (now : Timestamp)
    (state : GameState) (index : Value) : Drawing σ Transition :=
  if state.seed.isNull then liftExcept (navigator.takeSeeded chance now state index)
  else navigator.makeChoice generator now state index

end Navigator
end Gamebook
