import Gamebook.Condition.Comparing
import Gamebook.Condition.Context

/-!
The value of an expression in a context. Operands are evaluated from left to right and only as far
as they are needed; predicates are looked up in a table that is handed in.
-/
namespace Gamebook.Condition

abbrev Predicate := Context → List Value → Outcome Value

abbrev Predicates := Table Predicate

def problem {α : Type} (cause : ConditionProblem) : Outcome α := .error (.condition cause)

def liftProblem {α : Type} : Except ConditionProblem α → Outcome α
  | .ok value => .ok value
  | .error cause => problem cause

/-- The text of a path: none for the root, otherwise the parts between its dots. -/
def pathParts (path : Value) : Outcome (Option (List (List Char))) :=
  match path with
  | .null => .ok none
  | .text text => .ok (if text = "" then none else some (Text.splitAt '.' text.toList))
  | .int index =>
    if path.isWritable then .ok (some [(toString index).toList]) else .error (.fault .badValue)
  | path => if path.isWritable then problem (.badPath path) else .error (.fault .badValue)

def lookup (context : Context) (path : Value) : Outcome (Option Value) := do
  match ← pathParts path with
  | none => return some context.root
  | some parts => Fault.lift (follow context.root parts)

def isMissing (context : Context) (path : Value) : Outcome Bool := do
  match ← lookup context path with
  | none | some .null => return true
  | some (.text text) => return text == ""
  | some _ => return false

/-- A comparison of two values, or of three in a chain; the second link is looked at only if the
first holds. -/
def compareAll (comparison : Comparison) : List Value → Outcome Value
  | [a, b] => do return .bool (← liftProblem (comparison.holds a b))
  | [a, b, c] => do
    if ← liftProblem (comparison.holds a b) then
      return .bool (← liftProblem (comparison.holds b c))
    else return .bool false
  | _ => .ok (.bool false)

def divideBy (operation : Operation) (divide : Number → Number → Except Fault Number)
    (a b : Number) : Outcome Number :=
  if b.isZero then problem (.divisionByZero operation.name) else Fault.lift (divide a b)

def calculate (operation : Operation) (operands : List Number) : Outcome Number :=
  match operation, operands with
  | .add, operands => Fault.lift (Number.sum operands)
  | .multiply, operands => Fault.lift (Number.product operands)
  | .subtract, [a] => .ok a.neg
  | .subtract, [a, b] => Fault.lift (a.sub b)
  | .least, first :: rest => .ok (Number.least first rest)
  | .greatest, first :: rest => .ok (Number.greatest first rest)
  | .divide, [a, b] => divideBy .divide Number.div a b
  | .remainder, [a, b] => divideBy .remainder Number.rem a b
  | _, _ => .error (.fault .badValue)

/-- A text is searched for texts only; nothing else is searched but lists and objects. -/
def isMember (needle haystack : Value) : Outcome Bool :=
  match haystack, needle with
  | .text _, .text _ | .list _, _ | .tuple _, _ | .object _, _ | .view _, _ =>
    Fault.lift (haystack.holds needle)
  | .text _, _ => problem .needleNotText
  | haystack, _ => problem (.notSearchable haystack.kind)

section
variable (context : Context) (predicates : Predicates)

mutual

def evaluate : Expr → Outcome Value
  | .const value => .ok value
  | .array items => do return .list (← evaluateItems items)
  | .lookup path fallback => do
    match ← lookup context (← evaluate path) with
    | some value => return value
    | none => evaluateFallback fallback
  | .missing paths => do return .list (← evaluateMissing paths)
  | .compare comparison operands => do compareAll comparison (← evaluateItems operands)
  | .all operands => evaluateAll .null operands
  | .any operands => evaluateAny .null operands
  | .not operand => do return .bool !(← evaluate operand).truthy
  | .truth operand => do return .bool (← evaluate operand).truthy
  | .branch parts => evaluateBranch parts
  | .arithmetic operation operands => do
    return (← calculate operation (← evaluateNumbers operands)).toValue
  | .member needle haystack => do
    let needle ← evaluate needle
    return .bool (← isMember needle (← evaluate haystack))
  | .predicate name operands =>
    match predicates.get? name with
    | none => problem (.unknownOperation name)
    | some predicate => do predicate context (← evaluateItems operands)
  | .invalid reason => problem (.malformed reason)

def evaluateItems : List Expr → Outcome (List Value)
  | [] => .ok []
  | item :: items => do
    let value ← evaluate item
    return value :: (← evaluateItems items)

def evaluateNumbers : List Expr → Outcome (List Number)
  | [] => .ok []
  | item :: items => do
    let number ← liftProblem (toNumber (← evaluate item))
    return number :: (← evaluateNumbers items)

def evaluateFallback : Option Expr → Outcome Value
  | none => .ok .null
  | some fallback => evaluate fallback

def evaluateMissing : List Expr → Outcome (List Value)
  | [] => .ok []
  | path :: paths => do
    let path ← evaluate path
    let isGone ← isMissing context path
    let rest ← evaluateMissing paths
    return if isGone then path :: rest else rest

def evaluateAll (last : Value) : List Expr → Outcome Value
  | [] => .ok last
  | operand :: operands => do
    let value ← evaluate operand
    if value.truthy then evaluateAll value operands else return value

def evaluateAny (last : Value) : List Expr → Outcome Value
  | [] => .ok last
  | operand :: operands => do
    let value ← evaluate operand
    if value.truthy then return value else evaluateAny value operands

def evaluateBranch : List Expr → Outcome Value
  | [] => .ok .null
  | [fallback] => evaluate fallback
  | condition :: result :: rest => do
    if (← evaluate condition).truthy then evaluate result else evaluateBranch rest

end

end
end Gamebook.Condition
