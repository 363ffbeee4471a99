import Gamebook.Condition.Evaluate

/-!
The story-specific operations that conditions can use beside the built-in ones.
-/
namespace Gamebook.Condition

def argument (name : String) : List Value → Outcome Value
  | [] => problem (.noArgument name)
  | value :: _ => .ok value

def entry? (dict : Dict) (key : Value) : Outcome (Option Value) :=
  if key.isKey then .ok (dict.get? key) else .error (.fault .wrongKind)

def isPositive (value : Value) : Bool :=
  (value.countable?.map fun number => (Number.int 0).lt number).getD false

def holdsItem (context : Context) (key : Value) : Outcome Bool := do
  return ((← entry? context.inventory key).map isPositive).getD false

def holdsItems (context : Context) : List Value → Outcome Bool
  | [] => .ok true
  | key :: keys => do
    if ← holdsItem context key then holdsItems context keys else return false

/-- The entry under a key, or zero where it is absent or empty. -/
def amount (dict : Dict) (key : Value) : Outcome Value := do
  match ← entry? dict key with
  | some value => return if value.isFilled then value else .int 0
  | none => return .int 0

def hasItem : Predicate := fun context operands => do
  return .bool (← holdsItem context (← argument "hasItem" operands))

/-- The keys are the operands, or the items of a list that is the only operand. -/
def hasItems : Predicate := fun context operands => do
  let keys := match operands with
    | [operand] => operand.items?.getD operands
    | _ => operands
  return .bool (← holdsItems context keys)

def itemCount : Predicate := fun context operands => do
  amount context.inventory (← argument "itemCount" operands)

def hasVisitedNode : Predicate := fun context operands => do
  let key ← argument "hasVisitedNode" operands
  return .bool (← Fault.lift (key.isKeyOf context.hasVisited))

def hasStatusEffect : Predicate := fun context operands => do
  let key ← argument "hasStatusEffect" operands
  return .bool (← Fault.lift (key.isKeyOf context.hasStatusEffect))

def walletBalance : Predicate := fun context operands => do
  amount context.wallets (← argument "walletBalance" operands)

def defaultPredicates : Predicates := [
  ("hasItem", hasItem),
  ("hasItems", hasItems),
  ("itemCount", itemCount),
  ("hasVisitedNode", hasVisitedNode),
  ("hasStatusEffect", hasStatusEffect),
  ("walletBalance", walletBalance)]

def constantPredicate (value : Value) : Predicate := fun _ _ => .ok value

end Gamebook.Condition
