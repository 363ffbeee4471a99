import Gamebook.Failure
import Gamebook.Random.Twister
import Gamebook.Value.Arithmetic
import Gamebook.Value.Dict
import Gamebook.Value.Truth

/-!
Where random numbers come from. A generator is any way to draw a whole number from a range while
its state moves on; the game's own draws from a seeded twister, or gives out numbers that were fixed
in advance.
-/
namespace Gamebook

/-- A computation that draws: it may fail, and leaves a state either way. -/
abbrev Drawing (σ : Type) := EStateM Failure σ

structure Generator (σ : Type) where
  /-- A whole number between two bounds. -/
  draw : Int → Int → Drawing σ Int

inductive RandomSource where
  | twister (state : Twister)
  /-- Numbers given out one after the other, whatever the bounds. -/
  | fixed (values : List Int)

namespace RandomSource

def ofSeed (seed : Seed) : RandomSource := .twister (.ofSeed seed)

def drawFrom (low high : Int) : RandomSource → EStateM.Result Failure RandomSource Int
  | .twister state =>
    if low ≤ high then
      let (value, next) := state.below (high - low + 1).toNat
      .ok (low + value) (.twister next)
    else .error (.fault .badValue) (.twister state)
  | .fixed (value :: values) => .ok value (.fixed values)
  | .fixed [] => .error (.fault .exhausted) (.fixed [])

def generator : Generator RandomSource := ⟨drawFrom⟩

def boundOf : Value → Except Fault Int
  | .int value => .ok value
  | .bool value => .ok (if value then 1 else 0)
  | .real (.infinite _) => .error .tooLarge
  | .real x => match x.toInt? with
    | some value => .ok value
    | none => .error .badValue
  | .text _ => .error .badValue
  | _ => .error .wrongKind

/-- A draw between bounds of any kind, at which numbers that were fixed do not look. -/
def drawBetween (low high : Value) : Drawing RandomSource Int := do
  match ← get with
  | .fixed _ => generator.draw 0 0
  | .twister _ =>
    let past ← liftExcept (Fault.lift (high.add (.int 1)))
    let low ← liftExcept (Fault.lift (boundOf low))
    let past ← liftExcept (Fault.lift (boundOf past))
    generator.draw low (past - 1)

def drawTimes (low high : Value) : Nat → Drawing RandomSource (List Int)
  | 0 => return []
  | count + 1 => do
    let first ← drawBetween low high
    return first :: (← drawTimes low high count)

/-- As many reals in the unit interval as asked for; numbers that were fixed give none. -/
def drawUnits : Nat → Drawing RandomSource (List Double)
  | 0 => return []
  | count + 1 => do
    match ← get with
    | .fixed _ => throw (.fault .badValue)
    | .twister state =>
      let (first, next) := state.unit
      set (RandomSource.twister next)
      return first :: (← drawUnits count)

def between (low high : Value) : Drawing RandomSource Int := do
  if ← liftExcept (Fault.lift (low.isAbove high)) then
    liftExcept (Failure.showing (.list [low, high]) (.emptyRange low high))
  drawBetween low high

end RandomSource

/-- The item at a place; negative places count from the end. -/
def itemAt? {α : Type} (items : List α) (place : Int) : Option α :=
  let place := if place < 0 then place + items.length else place
  if place < 0 then none else items[place.toNat]?

def Value.itemAt (value : Value) (place : Int) : Outcome Value :=
  match value.entries? with
  | some entries => match Assoc.get? entries (.int place) with
    | some entry => .ok entry
    | none => .error (.noEntry (.int place))
  | none => do
    match itemAt? (← Fault.lift value.elements) place with
    | some item => return item
    | none => throw (.fault .exhausted)

namespace Generator
variable {σ : Type} (generator : Generator σ)

def drawItem (items : Value) : Drawing σ Value := do
  let size ← liftExcept (Fault.lift items.size)
  let place ← generator.draw 0 (size - 1)
  liftExcept (items.itemAt place)

def pick (items : Value) : Drawing σ Value :=
  if items.isFilled then generator.drawItem items else throw .emptySelection

def choose (items : Value) : Drawing σ Value :=
  if items.isFilled then generator.drawItem items else throw .emptySequence

def drawMany (low high : Int) : Nat → Drawing σ (List Int)
  | 0 => return []
  | count + 1 => do
    let first ← generator.draw low high
    return first :: (← drawMany low high count)

end Generator
end Gamebook
