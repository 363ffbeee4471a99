import Gamebook.Condition.Gate
import Gamebook.Effect.Apply

/-!
Stories: nodes with choices that lead from one to the next, and what the game asks of a source of
stories.
-/
namespace Gamebook

/-- A check of a stat; without a formula a single die with twenty sides is rolled. -/
structure RollRequirement where
  stat : String
  difficulty : Int
  formula : Option String

structure StoryChoice where
  id : String
  text : String
  target : String
  conditions : List ConditionDef
  effects : List EffectDef
  rollRequirements : List RollRequirement
  metadata : Table Value

structure StoryNode where
  id : String
  text : String
  key : Option String
  mediaRef : Option String
  choices : List StoryChoice
  diceChecks : List RollRequirement
  /-- An ending; its choices cannot be taken. -/
  isTerminal : Bool

structure Story where
  id : String
  title : String
  start : String
  nodes : Table StoryNode

/-- The entry of a table under any value; only texts name entries. -/
def lookUp {α : Type} (table : Table α) (key : Value) : Outcome α :=
  if key.isKey then
    match key.text?.bind table.get? with
    | some entry => .ok entry
    | none => .error (.noEntry key)
  else .error (.fault .wrongKind)

/-- What playing needs to know of stories. What a source says of them need not be checked. -/
structure StorySource where
  node? : String → Option StoryNode
  /-- How many nodes a story is said to have. -/
  nodeCount : Value → Outcome Value
  /-- Where a story is said to start. -/
  startNode : Value → Outcome Value

structure Library where
  stories : Table Story

namespace Library

def story (library : Library) (id : Value) : Outcome Story := lookUp library.stories id

def nodes (library : Library) : Table StoryNode := library.stories.flatMap fun entry => entry.2.nodes

def node (library : Library) (id : Value) : Outcome StoryNode := lookUp library.nodes id

def nodeCount (library : Library) (id : Value) : Outcome Int := do
  return (← library.story id).nodes.length

def startNode (library : Library) (id : Value) : Outcome String := do
  return (← library.story id).start

def all (library : Library) : List Story :=
  (library.stories.mergeSort fun a b => !Text.before b.1 a.1).map (·.2)

def source (library : Library) : StorySource where
  node? := library.nodes.get?
  nodeCount id := do return .int (← library.nodeCount id)
  startNode id := do return .text (← library.startNode id)

end Library
end Gamebook
