import Gamebook.Json.Reader
import Gamebook.Story.Definition

/-!
Stories read from documents. What is missing or of the wrong kind is reported with its place, the
first fault of the document first; conditions that cannot be read are kept, since they never pass.
Then starts and targets must name nodes of their own story.
-/
namespace Gamebook

namespace Story.Document

def refuse {α : Type} (problem : StoryProblem) : Outcome α := .error (.story problem)

def object (place : String) : Value → Outcome (Table Value)
  | .object fields => .ok fields
  | _ => refuse (.object place)

def filledText (place : String) : Value → Outcome String
  | .text text => if text = "" then refuse (.textMissing place) else .ok text
  | _ => refuse (.textMissing place)

def text (place : String) : Value → Outcome String
  | .text text => .ok text
  | _ => refuse (.text place)

def optionalText (place : String) : Value → Outcome (Option String)
  | .null => .ok none
  | .text text => .ok (some text)
  | _ => refuse (.optionalText place)

def optionalObject (place : String) : Value → Outcome (Table Value)
  | .null => .ok []
  | .object fields => .ok fields
  | _ => refuse (.optionalObject place)

def boolean (place : String) : Value → Outcome Bool
  | .bool value => .ok value
  | _ => refuse (.boolean place)

def integer (place : String) : Value → Outcome Int
  | .int value => .ok value
  | _ => refuse (.integer place)

def optionalList (place : String) : Value → Outcome (List (Value × String))
  | .null => .ok []
  | .list items => .ok (items.zipIdx.map fun (item, index) => (item, s!"{place}[{index}]"))
  | _ => refuse (.optionalList place)

/-- The field under the first name, whatever it holds, or else under the second, or else null. -/
def either (fields : Table Value) (first second : String) : Value :=
  (fields.get? first).getD (Value.field fields second)

def readConditions (place : String) (document : Value) : Outcome (List ConditionDef) := do
  return (← optionalList place document).map fun (item, _) => .ofDocument item

def readEffect (place : String) (document : Value) : Outcome EffectDef := do
  let fields ← object place document
  let metadata ← optionalObject s!"{place} metadata" (Value.field fields "metadata")
  return {
    type := ← filledText s!"{place} type" (Value.field fields "type")
    target := ← filledText s!"{place} target" (Value.field fields "target")
    operation := ← filledText s!"{place} operation" (Value.field fields "operation")
    value := Value.field fields "value"
    metadata := metadata }

def readEffects (place : String) (document : Value) : Outcome (List EffectDef) := do
  (← optionalList place document).mapM fun (item, place) => readEffect place item

def readRequirement (place : String) (document : Value) : Outcome RollRequirement := do
  let fields ← object place document
  let difficulty ← integer s!"{place} difficulty" (Value.field fields "difficulty")
  let stat ← filledText s!"{place} stat" (Value.field fields "stat")
  let formula ← optionalText s!"{place} formula" (Value.field fields "formula")
  return ⟨stat, difficulty, formula⟩

def readRequirements (place : String) (document : Value) : Outcome (List RollRequirement) := do
  (← optionalList place document).mapM fun (item, place) => readRequirement place item

/-- A choice without an id is named after its node and its place. -/
def readChoice (nodeId place : String) (index : Nat) (document : Value) : Outcome StoryChoice := do
  let fields ← object place document
  let id ← text s!"{place} id" ((fields.get? "id").getD (.text s!"{nodeId}:{index}"))
  let metadata ← optionalObject s!"{place} metadata" (Value.field fields "metadata")
  return {
    id := id
    text := ← filledText s!"{place} text" (Value.field fields "text")
    target := ← filledText s!"{place} target" (either fields "target" "target_node_id")
    conditions := ← readConditions s!"{place} conditions" (Value.field fields "conditions")
    effects := ← readEffects s!"{place} effects" (Value.field fields "effects")
    rollRequirements := ← readRequirements s!"{place} roll_requirements"
      (either fields "roll_requirements" "rollRequirements")
    metadata := metadata }

def readChoices (nodeId place : String) (document : Value) : Outcome (List StoryChoice) := do
  (← optionalList place document).zipIdx.mapM fun ((item, place), index) =>
    readChoice nodeId place index item

def readNode (id : String) (document : Value) : Outcome StoryNode := do
  let place := s!"story node '{id}'"
  let fields ← object place document
  let text ← text s!"{place} text" ((fields.get? "text").getD (.text ""))
  let terminal := (fields.get? "is_terminal").getD ((fields.get? "isTerminal").getD (.bool false))
  let isTerminal ← boolean s!"{place} is_terminal" terminal
  return {
    id := id
    text := text
    key := ← optionalText s!"{place} key" (Value.field fields "key")
    mediaRef := ← optionalText s!"{place} media_ref" (Value.field fields "media_ref")
    choices := ← readChoices id s!"{place} choices" (Value.field fields "choices")
    diceChecks := ← readRequirements s!"{place} dice_checks"
      (either fields "dice_checks" "diceChecks")
    isTerminal := isTerminal }

/-- Nodes in the order of the document, none of which may be among those already `taken`. -/
def readNodes (place : String) (taken : List String) : Table Value → Outcome (Table StoryNode)
  | [] => .ok []
  | (id, document) :: rest =>
    if taken.contains id then refuse (.duplicateNode id place)
    else do
      let node ← readNode id document
      return (id, node) :: (← readNodes place (id :: taken) rest)

def checkTargets (place : String) (nodes : Table StoryNode) : Outcome Unit :=
  nodes.forM fun (_, node) => node.choices.forM fun choice =>
    if nodes.contains choice.target then .ok ()
    else .error (.storyReference (.target place node.id choice.id choice.target))

def readStory (taken : List String) (id : String) (document : Value) : Outcome Story := do
  let place := s!"story '{id}'"
  let fields ← object place document
  let title ← text s!"{place} title" ((fields.get? "title").getD (.text id))
  let start ← filledText s!"{place} start" (Value.field fields "start")
  let documents ← object s!"{place} nodes" (Value.field fields "nodes")
  let nodes ← readNodes place taken documents
  if !nodes.contains start then throw (.storyReference (.start place start))
  checkTargets place nodes
  return ⟨id, title, start, nodes⟩

/-- Stories in the order of the document; node ids are unique across all of them. -/
def readStories (taken : List String) : Dict → Outcome (Table Story)
  | [] => .ok []
  | (.text id, document) :: rest => do
    let story ← readStory taken id document
    return (id, story) :: (← readStories (taken ++ story.nodes.names) rest)
  | _ :: _ => refuse .storyId

end Story.Document

namespace Library

def ofDocument (document : Dict) : Outcome Library := do
  return ⟨← Story.Document.readStories [] document⟩

end Library
end Gamebook
