import Gamebook.Condition.Expr
import Gamebook.Value.Equality
import Gamebook.Value.Truth

/-!
How conditions compare values: as numbers where they can be read as such, loosely or strictly, and by
order.
-/
namespace Gamebook

namespace Condition

def toNumber (value : Value) : Except ConditionProblem Number :=
  match value, value.countable? with
  | .null, _ => .ok (.int 0)
  | _, some number => .ok number
  | .text text, _ =>
    match Text.readReal? (Text.trim text.toList) with
    | some x => .ok (.real x)
    | none => .error (.textNotNumber text)
  | value, none => .error (.kindNotNumber value.kind)

def isScalar : Value → Bool
  | .bool _ | .int _ | .real _ | .text _ => true
  | _ => false

/-- Scalars of different kinds are equal as numbers; null equals only itself. -/
def looselyEqual (a b : Value) : Bool :=
  match a, b with
  | .null, other | other, .null => other.isNull
  | .text a, .text b => a == b
  | a, b =>
    if isScalar a && isScalar b then
      match toNumber a, toNumber b with
      | .ok a, .ok b => a.eq b
      | _, _ => false
    else a.equals b

/-- Numbers are equal across their two kinds; everything else has to be of one kind. -/
def strictlyEqual (a b : Value) : Bool :=
  match a, b with
  | .bool a, .bool b => a == b
  | .bool _, _ | _, .bool _ => false
  | a, b => match a.number?, b.number? with
    | some a, some b => a.eq b
    | _, _ => a.kind == b.kind && a.equals b

def ordered (texts : String → String → Bool) (numbers : Number → Number → Bool) (a b : Value) :
    Except ConditionProblem Bool :=
  match a, b with
  | .text a, .text b => .ok (texts a b)
  | a, b => do return numbers (← toNumber a) (← toNumber b)

namespace Comparison

def holds (comparison : Comparison) (a b : Value) : Except ConditionProblem Bool :=
  match comparison with
  | .equal => .ok (looselyEqual a b)
  | .unequal => .ok !looselyEqual a b
  | .identical => .ok (strictlyEqual a b)
  | .different => .ok !strictlyEqual a b
  | .below => ordered Text.before Number.lt a b
  | .atMost => ordered (fun a b => !Text.before b a) Number.le a b
  | .above => ordered (fun a b => Text.before b a) (fun a b => b.lt a) a b
  | .atLeast => ordered (fun a b => !Text.before a b) (fun a b => b.le a) a b

end Comparison
end Condition
end Gamebook
