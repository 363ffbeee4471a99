import Gamebook.Story.Definition

/-!
Which choices a state may take: the current node, the choice that an index names, and its
conditions, checked in this order.
-/
namespace Gamebook

/-- Plays the stories of a source; conditions may use the given predicates. -/
structure Navigator where
  stories : StorySource
  predicates : Condition.Predicates

structure ChoiceView where
  index : Nat
  id : String
  text : String
  target : String
  available : Bool
  failed : List FailedCondition
  needsRoll : Bool

structure Selection where
  node : StoryNode
  index : Nat
  choice : StoryChoice

namespace Navigator

def node (navigator : Navigator) (id : Value) : Outcome StoryNode :=
  if id.isKey then
    match id.text?.bind navigator.stories.node? with
    | some node => .ok node
    | none => Failure.showing id (.notFound .node id)
  else .error (.fault .wrongKind)

def currentNode (navigator : Navigator) (state : GameState) : Outcome StoryNode :=
  navigator.node state.currentNodeId

def isAtEnding (navigator : Navigator) (state : GameState) : Outcome Bool := do
  return (← navigator.currentNode state).isTerminal

def refuseIndex (node : StoryNode) (index : Value) (count : Nat) : Outcome Selection :=
  Failure.showing index (.noSuchChoice node.id index count)

/-- The choice at an index. An ending has none, whatever its story says. -/
def choiceAt (node : StoryNode) (index : Value) : Outcome Selection :=
  match index with
  | .int place =>
    if node.isTerminal then refuseIndex node index 0
    else if place < 0 then refuseIndex node index node.choices.length
    else match node.choices[place.toNat]? with
      | some choice => .ok ⟨node, place.toNat, choice⟩
      | none => refuseIndex node index node.choices.length
  | _ => refuseIndex node index node.choices.length

def select (navigator : Navigator) (state : GameState) (index : Value) : Outcome Selection := do
  choiceAt (← navigator.currentNode state) index

def availability (navigator : Navigator) (choice : StoryChoice) (state : GameState) :
    Outcome Availability :=
  Fault.lift (Condition.availability navigator.predicates choice.conditions state)

def gate (navigator : Navigator) (state : GameState) (index : Value) : Outcome Selection := do
  let selection ← navigator.select state index
  let availability ← navigator.availability selection.choice state
  if availability.available then return selection
  else throw (.conditionsNotMet selection.node.id selection.index availability.failed)

def view (navigator : Navigator) (state : GameState) (index : Nat) (choice : StoryChoice) :
    Outcome ChoiceView := do
  let availability ← navigator.availability choice state
  return {
    index := index
    id := choice.id
    text := choice.text
    target := choice.target
    available := availability.available
    failed := availability.failed
    needsRoll := !choice.rollRequirements.isEmpty }

/-- Every choice of the current node, open or locked. -/
def choices (navigator : Navigator) (state : GameState) : Outcome (List ChoiceView) := do
  let node ← navigator.currentNode state
  node.choices.zipIdx.mapM fun (choice, index) => navigator.view state index choice

end Navigator

inductive Verdict where
  | valid
  | locked (failed : List FailedCondition)
  | impossible (reason : Failure)

namespace Verdict

def isValid : Verdict → Bool
  | .valid => true
  | _ => false

def reason? : Verdict → Option String
  | .valid => none
  | .locked _ => some "Conditions not met"
  | .impossible reason => some reason.message

def failed : Verdict → List FailedCondition
  | .locked failed => failed
  | _ => []

end Verdict

def Navigator.validate (navigator : Navigator) (state : GameState) (index : Value) :
    Outcome Verdict :=
  match navigator.select state index with
  | .error (.notFound kind id) => .ok (.impossible (.notFound kind id))
  | .error (.noSuchChoice node index count) => .ok (.impossible (.noSuchChoice node index count))
  | .error failure => .error failure
  | .ok selection => do
    let availability ← navigator.availability selection.choice state
    return if availability.available then .valid else .locked availability.failed

end Gamebook
