import Gamebook.Condition.Predicates

/-!
Conditions that guard a choice. Evaluation fails closed: a condition that cannot be read or
evaluated never counts as met, so a broken story never unlocks anything.
-/
namespace Gamebook

structure ConditionDef where
  logic : Value
  expression : Condition.Expr

namespace ConditionDef

def ofLogic (logic : Value) : ConditionDef := ⟨logic, .ofDocument logic⟩

/-- The logic of a condition document: its field of that name, or the document itself. -/
def logicOf (document : Value) : Value :=
  (document.fields?.bind fun fields => fields.get? "logic").getD document

def ofDocument (document : Value) : ConditionDef := ofLogic (logicOf document)

end ConditionDef

structure Availability where
  failed : List FailedCondition

def Availability.available (availability : Availability) : Bool := availability.failed.isEmpty

namespace Condition

/-- Whether a condition is met in a context. What cannot be evaluated is not met and is reported
with its logic cut short, and only a number too long to be shown there keeps it from an answer. -/
def isMet (predicates : Predicates) (context : Context) (condition : ConditionDef) :
    Except Fault Bool :=
  match evaluate context predicates condition.expression with
  | .ok value => .ok value.truthy
  | .error _ => if condition.logic.isAbridgeable 6 then .ok false else .error .badValue

def passes (predicates : Predicates) (condition : ConditionDef) (state : GameState) :
    Except Fault Bool := do
  isMet predicates (← Context.ofState state) condition

def passesAll (predicates : Predicates) (conditions : List ConditionDef) (state : GameState) :
    Except Fault Bool := do
  if conditions.isEmpty then return true
  let context ← Context.ofState state
  conditions.allM (isMet predicates context)

def passesAny (predicates : Predicates) (conditions : List ConditionDef) (state : GameState) :
    Except Fault Bool := do
  if conditions.isEmpty then return true
  let context ← Context.ofState state
  conditions.anyM (isMet predicates context)

def failures (predicates : Predicates) (context : Context) (index : Nat) :
    List ConditionDef → Except Fault (List FailedCondition)
  | [] => return []
  | condition :: conditions => do
    let met ← isMet predicates context condition
    let rest ← failures predicates context (index + 1) conditions
    return if met then rest else ⟨index, condition.logic⟩ :: rest

def availability (predicates : Predicates) (conditions : List ConditionDef) (state : GameState) :
    Except Fault Availability := do
  if conditions.isEmpty then return ⟨[]⟩
  let context ← Context.ofState state
  return ⟨← failures predicates context 0 conditions⟩

end Condition
end Gamebook
