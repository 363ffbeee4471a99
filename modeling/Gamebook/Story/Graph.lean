import Gamebook.Dice.Formula
import Gamebook.Story.Definition

/-!
Mistakes of a story that can be found without playing it: references to nodes it does not have,
conditions and formulas that cannot be read, effects the game does not know, dead ends, and nodes to
which no path of choices leads from the start.
-/
namespace Gamebook

inductive Severity where
  | error
  | warning
  deriving DecidableEq

def Severity.word : Severity → String
  | .error => "ERROR"
  | .warning => "WARN"

/-- A mistake and where it was found: in the story as a whole, at a node, or at a part of one. -/
inductive Issue where
  | missingStart (story start : Value)
  | missingTarget (node path target : String)
  | deadEnd (node : String)
  | unreadableCondition (node path : String) (reason : MalformedCondition)
  | unknownEffectType (node path : String)
  | unknownOperation (node path : String)
  | badFormula (node path : String) (reason : Failure)
  | unreachable (node : String)

namespace Issue

def severity : Issue → Severity
  | .deadEnd _ | .unknownEffectType .. | .unreachable _ => .warning
  | _ => .error

def code : Issue → String
  | .missingStart .. => "MISSING_START_NODE"
  | .missingTarget .. => "MISSING_NODE_REF"
  | .deadEnd _ => "DEAD_END"
  | .unreadableCondition .. => "INVALID_CONDITION"
  | .unknownEffectType .. => "UNKNOWN_EFFECT_TYPE"
  | .unknownOperation .. => "UNKNOWN_EFFECT_OPERATION"
  | .badFormula .. => "INVALID_DICE_FORMULA"
  | .unreachable _ => "UNREACHABLE_NODE"

def message : Issue → String
  | .missingStart .. => "Story start references missing node."
  | .missingTarget .. => "Choice references missing node."
  | .deadEnd _ => "Node has no choices but is not marked terminal."
  | .unreadableCondition _ _ reason =>
    s!"Condition cannot be parsed and will never pass: {reason.message}"
  | .unknownEffectType .. => "Effect type is not recognized by runtime and will be ignored."
  | .unknownOperation .. => "Effect operation is not supported and will be skipped."
  | .badFormula _ _ reason => reason.message
  | .unreachable _ => "Node is unreachable from the story start."

def context : Issue → Table Value
  | .missingStart story start => [("story_id", story), ("referenced_id", start)]
  | .missingTarget node path target =>
    [("node_id", .text node), ("field_path", .text path), ("referenced_id", .text target)]
  | .deadEnd node | .unreachable node => [("node_id", .text node)]
  | .unreadableCondition node path _ | .unknownEffectType node path
  | .unknownOperation node path | .badFormula node path _ =>
    [("node_id", .text node), ("field_path", .text path)]

def format (issue : Issue) : String :=
  let entries := issue.context.map fun (name, entry) => s!"{name}={entry.asText}"
  let context := " ".intercalate entries
  s!"[{issue.severity.word}] {issue.code}: {issue.message} ({context})"

def isError (issue : Issue) : Bool := issue.severity == .error

end Issue

namespace Graph

def targets (nodes : Table StoryNode) (id : String) : List String :=
  match nodes.get? id with
  | some node => (node.choices.map (·.target)).filter nodes.contains
  | none => []

def unfound (nodes : Table StoryNode) (found : List String) : List String :=
  nodes.names.filter fun id => !found.contains id

theorem unfound_cons (nodes : Table StoryNode) (found : List String) (id : String) :
    unfound nodes (id :: found) = (unfound nodes found).filter (· ≠ id) := by
  simp [unfound, List.filter_filter]

theorem length_unfound_cons {nodes : Table StoryNode} {found : List String} {id : String}
    {node : StoryNode} (new : ¬ found.contains id = true) (known : nodes.get? id = some node) :
    (unfound nodes (id :: found)).length < (unfound nodes found).length := by
  obtain ⟨entry, here, _⟩ := Option.map_eq_some_iff.mp known
  obtain rfl : entry.1 = id := by simpa using List.find?_some here
  have member : entry.1 ∈ nodes.names := List.mem_map_of_mem (List.mem_of_find?_eq_some here)
  rw [unfound_cons, List.length_filter_lt_length_iff_exists]
  exact ⟨entry.1, by simpa [unfound, member] using new, by simp⟩

/-- What is found from a stack of nodes, besides what was found before. A node may stand on the
stack several times; where it was found already, it is passed over. -/
def search (nodes : Table StoryNode) (found : List String) : List String → List String
  | [] => found
  | id :: stack =>
    if found.contains id then search nodes found stack
    else search nodes (id :: found) ((targets nodes id).reverse ++ stack)
termination_by stack => ((unfound nodes found).length, stack.length)
decreasing_by
  · exact .right _ (Nat.lt_succ_self _)
  · rename_i new
    -- Only a node that was not found yet puts others on the stack.
    cases known : nodes.get? id with
    | some node => exact .left _ _ (length_unfound_cons new known)
    | none =>
      have nothing : targets nodes id = [] := by rw [targets, known]
      rw [nothing, unfound_cons]
      exact .right' _ (List.length_filter_le _ _) (Nat.lt_succ_self _)

/-- The nodes to which paths lead from the start, which need not be a node. -/
def reachable (nodes : Table StoryNode) (start : Value) : List String :=
  search nodes [] (start.text?.filter nodes.contains).toList

def unreachable (nodes : Table StoryNode) (start : Value) : List String :=
  let reached := reachable nodes start
  (nodes.names.filter fun id => !reached.contains id).mergeSort fun a b => !Text.before b a

def startIssues (id start : Value) (nodes : Table StoryNode) : Outcome (List Issue) :=
  if !start.isKey then .error (.fault .wrongKind)
  else if start.text?.any nodes.contains then .ok []
  else .ok [.missingStart id start]

def referenceIssues (nodes : Table StoryNode) (id : String) (node : StoryNode) : List Issue :=
  let dangling := node.choices.zipIdx.filterMap fun (choice, index) =>
    if nodes.contains choice.target then none
    else some (.missingTarget id s!"choices[{index}].target" choice.target)
  dangling ++ if node.choices.isEmpty && !node.isTerminal then [.deadEnd id] else []

/-- A formula that cannot be read is an issue, unless its numbers are too long to be read at all. -/
def formulaIssues (id path : String) (requirement : RollRequirement) : Outcome (List Issue) :=
  match requirement.formula with
  | none => .ok []
  | some formula => match DiceFormula.ofText formula with
    | .ok _ => .ok []
    | .error (.fault fault) => .error (.fault fault)
    | .error reason => .ok [.badFormula id s!"{path}.formula" reason]

def requirementIssues (id path : String) (requirements : List RollRequirement) :
    Outcome (List Issue) := do
  return (← requirements.zipIdx.mapM fun (requirement, index) =>
    formulaIssues id s!"{path}[{index}]" requirement).flatten

def conditionIssues (id path : String) (conditions : List ConditionDef) : List Issue :=
  conditions.zipIdx.filterMap fun (condition, index) => match condition.expression with
    | .invalid reason => some (.unreadableCondition id s!"{path}.conditions[{index}]" reason)
    | _ => none

def effectIssues (id path : String) (effects : List EffectDef) : List Issue :=
  effects.zipIdx.filterMap fun (effect, index) =>
    let path := s!"{path}.effects[{index}]"
    if (Effect.Target.ofName? effect.type).isNone then some (.unknownEffectType id path)
    else if (Effect.Operation.ofName? effect.operation).isNone then
      some (.unknownOperation id s!"{path}.operation")
    else none

def choiceIssues (id : String) (index : Nat) (choice : StoryChoice) : Outcome (List Issue) := do
  let path := s!"choices[{index}]"
  let rolls ← requirementIssues id s!"{path}.roll_requirements" choice.rollRequirements
  return conditionIssues id path choice.conditions ++ effectIssues id path choice.effects ++ rolls

def nodeIssues (nodes : Table StoryNode) (id : String) (node : StoryNode) :
    Outcome (List Issue) := do
  let checks ← requirementIssues id "dice_checks" node.diceChecks
  let choices ← node.choices.zipIdx.mapM fun (choice, index) => choiceIssues id index choice
  return referenceIssues nodes id node ++ checks ++ choices.flatten

def issues (id start : Value) (nodes : Table StoryNode) : Outcome (List Issue) := do
  let startIssues ← startIssues id start nodes
  let found ← nodes.mapM fun (id, node) => nodeIssues nodes id node
  return startIssues ++ found.flatten ++ (unreachable nodes start).map .unreachable

end Graph

namespace Story

def issues (story : Story) : Outcome (List Issue) :=
  Graph.issues (.text story.id) (.text story.start) story.nodes

end Story
end Gamebook
