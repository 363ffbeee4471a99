import Gamebook.Play.Gate

/-!
How much of a story has been seen.
-/
namespace Gamebook

structure Progress where
  /-- The number of nodes that the source of the story gives. -/
  total : Value
  visited : Nat
  percentage : Int
  choicesMade : Nat

namespace Progress

/-- The share of the visited nodes, rounded to whole percent with halves upwards. -/
def percent (visited : Nat) (total : Number) : Except Fault Int := do
  let share ← (Number.int (visited * 100)).div total
  match ← share.add (.real (Double.ofRatio false Double.one 2)) with
  | .int value => return value
  | .real value => match value.truncate? with
    | some whole => return whole
    | none => throw .tooLarge

def percentOf (visited : Nat) (total : Value) : Except Fault Int :=
  match total.countable? with
  | some total => if (Number.int 0).lt total then percent visited total else .ok 0
  | none => .error .wrongKind

end Progress

def Navigator.progress (navigator : Navigator) (state : GameState) : Outcome Progress := do
  let total ← navigator.stories.nodeCount state.storyId
  let visited ← Fault.lift state.visitedNodes.size
  let percentage ← Fault.lift (Progress.percentOf visited total)
  return ⟨total, visited, percentage, ← Fault.lift state.choiceCount⟩

end Gamebook
