import Gamebook.Fault
import Gamebook.Value.Shown

/-!
Everything that can go wrong, told apart by its cause. `Failure.message` is the only place where a
cause is put into words.
-/
namespace Gamebook

inductive MalformedCondition where
  | tooDeep (limit : Nat)
  | operatorCount (names : List String)
  | unnamedOperator
  | variableOperands
  | operandCount (operator : String) (least : Nat) (most : Option Nat) (given : Nat)
  deriving DecidableEq

inductive ConditionProblem where
  | malformed (reason : MalformedCondition)
  | unknownOperation (name : String)
  | badPath (path : Value)
  | textNotNumber (text : String)
  | kindNotNumber (kind : String)
  | divisionByZero (operator : String)
  | needleNotText
  | notSearchable (kind : String)
  | noArgument (predicate : String)

inductive EffectProblem where
  | amountBoolean (context : String)
  | amountNotFinite (context : String)
  | amountNotNumeric (context text : String)
  | amountOfKind (context kind : String)
  | unknownOperation (name : String)
  | outOfRange (operation : String) (amount current : Value)
  | notFinite (operation : String) (amount current : Value)
  | notWhole (value : Double)
  | flagAmount (operation flag : String) (amount : Value)
  | flagHolds (operation flag : String) (current : Value)
  | statusOperation (operation : String)
  | duration (given : Value)

/-- What a field was required to be. -/
inductive Requirement where
  | jsonObject
  | object
  | mapping
  | list
  | textList
  | integer
  | number
  | text
  | optionalText
  | optionalDuration
  | duration
  | statusEffect
  | choiceRecord
  deriving DecidableEq

inductive StateProblem where
  | textMissing
  | required (what : Requirement)
  | stat (value : Value)
  | balance (value : Value)
  | quantity (value : Value)
  | timestamp
  | timestampText (text : String)
  | version (found : Value)
  | currentNotVisited (node : Value)

inductive StoryProblem where
  | storyId
  | object (place : String)
  | textMissing (place : String)
  | text (place : String)
  | optionalText (place : String)
  | optionalList (place : String)
  | optionalObject (place : String)
  | integer (place : String)
  | boolean (place : String)
  | duplicateNode (node story : String)
  | topLevel (file : String)

inductive StoryReference where
  | start (story node : String)
  | target (story node choice target : String)

inductive StoryFileProblem where
  | missing (file : String)
  | unreadable (file : String)
  | notJson (file : String)

inductive SaveProblem where
  | unreadable (id : String)
  | unwritable (id : String)
  | notJson (id : String)
  | notObject (id : String)
  | corrupt (id : String) (field : String) (problem : StateProblem)

inductive Named where
  | story
  | node
  | save
  deriving DecidableEq

structure FailedCondition where
  index : Nat
  logic : Value

inductive Failure where
  | diceFormula (given : Value)
  | diceCount (formula : String)
  | emptyRange (low high : Value)
  | emptySelection
  | condition (problem : ConditionProblem)
  | effect (problem : EffectProblem)
  | state (field : String) (problem : StateProblem)
  | differentPlaythroughs
  | saveExists (id : String)
  | notFound (kind : Named) (identifier : Value)
  | noSuchChoice (node : String) (index : Value) (count : Nat)
  | conditionsNotMet (node : String) (index : Int) (failed : List FailedCondition)
  | unknownStat (stat : String)
  | save (problem : SaveProblem)
  | storyFile (problem : StoryFileProblem)
  | story (problem : StoryProblem)
  | storyReference (problem : StoryReference)
  | noEntry (key : Value)
  | saveId (given : Value)
  | emptySequence
  | fault (fault : Fault)

abbrev Outcome := Except Failure

namespace MalformedCondition

def message : MalformedCondition → String
  | .tooDeep limit => s!"Condition is nested deeper than {limit} levels."
  | .operatorCount names =>
    "Operation objects need exactly one operator key, got [" ++
      Value.commas (names.map Text.quoted) ++ "]."
  | .unnamedOperator => "Operator names must be non-empty strings."
  | .variableOperands => "'var' takes a path and an optional default."
  | .operandCount operator least most given =>
    let upper := (most.map toString).getD "n"
    let expected := if most = some least then toString least else s!"{least}..{upper}"
    s!"'{operator}' expects {expected} operands, got {given}."

end MalformedCondition

namespace ConditionProblem

def message : ConditionProblem → String
  | .malformed reason => reason.message
  | .unknownOperation name => s!"Unrecognized operation: {name}"
  | .badPath path => s!"Variable paths must be strings or integers, got {path.shown}."
  | .textNotNumber text => s!"Cannot use {Text.quoted text} as a number."
  | .kindNotNumber kind => s!"Cannot use a value of type {kind} as a number."
  | .divisionByZero operator => s!"Division by zero in '{operator}'."
  | .needleNotText => "'in' on a string needs a string needle."
  | .notSearchable kind => s!"'in' cannot search a value of type {kind}."
  | .noArgument predicate => s!"'{predicate}' needs an argument."

end ConditionProblem

namespace EffectProblem

def message : EffectProblem → String
  | .amountBoolean context => s!"{context} must be numeric, got a boolean."
  | .amountNotFinite context => s!"{context} must be a finite number."
  | .amountNotNumeric context text => s!"{context} must be numeric, got {Text.quoted text}."
  | .amountOfKind context kind => s!"{context} must be numeric, got {kind}."
  | .unknownOperation name => s!"Unknown effect operation: {name}"
  | .outOfRange operation amount current =>
    s!"Result of {operation} {amount.shown} on {current.shown} is out of range."
  | .notFinite operation amount current =>
    s!"Result of {operation} {amount.shown} on {current.shown} is not a finite number."
  | .notWhole value => s!"Cannot round {value.text} to a whole number."
  | .flagAmount operation flag amount =>
    s!"Cannot {operation} non-numeric value {amount.shown} on flag '{flag}'."
  | .flagHolds operation flag current =>
    s!"Cannot {operation} on flag '{flag}' holding non-numeric value {current.shown}."
  | .statusOperation operation => s!"Invalid operation for status effect: {operation}"
  | .duration given =>
    s!"Status effect duration must be a non-negative integer, got {given.shown}."

end EffectProblem

namespace Requirement

def words : Requirement → String
  | .jsonObject => "a JSON object"
  | .object => "an object"
  | .mapping => "a mapping"
  | .list => "a list"
  | .textList => "a list of strings"
  | .integer => "an integer"
  | .number => "a number"
  | .text => "a string"
  | .optionalText => "a string if provided"
  | .optionalDuration => "a non-negative integer if provided"
  | .duration => "a non-negative integer or absent"
  | .statusEffect => "a status effect with a type"
  | .choiceRecord => "a choice record"

end Requirement

namespace StateProblem

def message : StateProblem → String
  | .textMissing => "missing or not a non-empty string"
  | .required what => s!"must be {what.words}"
  | .stat value => s!"invalid stat value {value.shown} (minimum 1)"
  | .balance value => s!"invalid balance {value.shown} (minimum 0)"
  | .quantity value => s!"invalid quantity {value.shown} (minimum 0)"
  | .timestamp => "invalid timestamp"
  | .timestampText text => s!"invalid timestamp {Text.quoted text}"
  | .version found => s!"unsupported snapshot version {found.shown}"
  | .currentNotVisited node => s!"does not contain current node '{node.asText}'"

end StateProblem

namespace StoryProblem

def message : StoryProblem → String
  | .storyId => "Story ids must be strings."
  | .object place => s!"{place} must be an object/dict."
  | .textMissing place => s!"{place} must be a non-empty string."
  | .text place => s!"{place} must be a string."
  | .optionalText place => s!"{place} must be a string if provided."
  | .optionalList place => s!"{place} must be a list if provided."
  | .optionalObject place => s!"{place} must be an object if provided."
  | .integer place => s!"{place} must be an integer."
  | .boolean place => s!"{place} must be a boolean."
  | .duplicateNode node story => s!"Duplicate story node id '{node}' in {story}."
  | .topLevel file => s!"Expected top-level object in {file}"

end StoryProblem

namespace StoryReference

def message : StoryReference → String
  | .start story node => s!"{story} start node '{node}' is not defined."
  | .target story node choice missing =>
    s!"{story} node '{node}' choice '{choice}' targets undefined node '{missing}'."

end StoryReference

namespace StoryFileProblem

def message : StoryFileProblem → String
  | .missing file => s!"Story file not found: {file}"
  | .unreadable file => s!"Unable to read story file: {file}"
  | .notJson file => s!"Invalid JSON in {file}"

end StoryFileProblem

namespace SaveProblem

def message : SaveProblem → String
  | .unreadable id => s!"Unable to read save '{id}'"
  | .unwritable id => s!"Unable to write save '{id}'"
  | .notJson id => s!"Save '{id}' is not valid JSON"
  | .notObject id => s!"Save '{id}' must be a JSON object."
  | .corrupt id field problem => s!"Save '{id}' is corrupt: {field}: {problem.message}"

end SaveProblem

def Named.word : Named → String
  | .story => "Story"
  | .node => "Node"
  | .save => "Save"

namespace Failure

def message : Failure → String
  | .diceFormula given => s!"Invalid dice formula: {given.shown}"
  | .diceCount formula =>
    s!"Invalid dice parameters in {Text.quoted formula}: need at least 1 die with 2 or more sides."
  | .emptyRange low high => s!"Empty range: {low.asText} > {high.asText}."
  | .emptySelection => "Cannot select from an empty sequence."
  | .condition problem => problem.message
  | .effect problem => problem.message
  | .state field problem => s!"{field}: {problem.message}"
  | .differentPlaythroughs => "Cannot merge states from different players or stories."
  | .saveExists id => s!"Save already exists: {id}"
  | .notFound kind identifier => s!"{kind.word} not found: {identifier.asText}"
  | .noSuchChoice node index count =>
    s!"Choice index {index.asText} is invalid for node '{node}' ({count} choices available)."
  | .conditionsNotMet node index failed =>
    let indices := Value.commas (failed.map fun one => toString one.index)
    s!"Choice {index} on node '{node}' is locked (failed conditions: {indices})."
  | .unknownStat stat => s!"Stat not found: {stat}"
  | .save problem => problem.message
  | .storyFile problem => problem.message
  | .story problem => problem.message
  | .storyReference problem => problem.message
  | .noEntry key => key.asText
  | .saveId given => s!"Invalid save id: {given.shown}"
  | .emptySequence => "Cannot choose from an empty sequence."
  | .fault cause => cause.message

/-- A failure of a kind that the game's own rules foresee. -/
def isForeseen : Failure → Bool
  | .noEntry _ | .saveId _ | .emptySequence | .fault _ => false
  | .storyFile _ | .story _ | .storyReference _ => false
  | _ => true

def isStoryProblem : Failure → Bool
  | .storyFile _ | .story _ | .storyReference _ => true
  | _ => false

/-- A choice that is not there, is locked, or needs a stat that is missing. -/
def isUnavailableChoice : Failure → Bool
  | .noSuchChoice .. | .conditionsNotMet .. | .unknownStat _ => true
  | _ => false

/-- A failure with a message that shows a value, if it can be written at all. -/
def showing {α : Type} (value : Value) (failure : Failure) : Outcome α :=
  if value.isWritable then .error failure else .error (.fault .badValue)

end Failure

def Fault.lift {α : Type} : Except Fault α → Outcome α
  | .ok value => .ok value
  | .error fault => .error (.fault fault)

end Gamebook
