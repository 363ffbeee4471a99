import Gamebook.Failure

/-!
Conditions as closed expressions, and how documents become them. An operator object has one field,
the operator's name; its entry lists the operands, or is the only one. Names that are no built-in
operator are predicates. A document is accepted or refused as a whole.
-/
namespace Gamebook.Condition

inductive Comparison where
  | equal
  | unequal
  | identical
  | different
  | below
  | atMost
  | above
  | atLeast
  deriving DecidableEq

inductive Operation where
  | add
  | multiply
  | subtract
  | divide
  | remainder
  | least
  | greatest
  deriving DecidableEq

inductive Expr where
  | const (value : Value)
  | array (items : List Expr)
  | lookup (path : Expr) (fallback : Option Expr)
  | missing (paths : List Expr)
  | compare (comparison : Comparison) (operands : List Expr)
  | all (operands : List Expr)
  | any (operands : List Expr)
  | not (operand : Expr)
  | truth (operand : Expr)
  /-- Condition, result, condition, result, and so on; a last one alone is the fallback. -/
  | branch (parts : List Expr)
  | arithmetic (operation : Operation) (operands : List Expr)
  | member (needle haystack : Expr)
  | predicate (name : String) (operands : List Expr)
  | invalid (reason : MalformedCondition)

namespace Comparison

def name : Comparison → String
  | .equal => "=="
  | .unequal => "!="
  | .identical => "==="
  | .different => "!=="
  | .below => "<"
  | .atMost => "<="
  | .above => ">"
  | .atLeast => ">="

def all : List Comparison :=
  [.equal, .unequal, .identical, .different, .below, .atMost, .above, .atLeast]

def ofName? (name : String) : Option Comparison := all.find? (·.name = name)

/-- The most operands; two is the least. Only the ascending orders chain three. -/
def mostOperands : Comparison → Nat
  | .below | .atMost => 3
  | _ => 2

end Comparison

namespace Operation

def name : Operation → String
  | .add => "+"
  | .multiply => "*"
  | .subtract => "-"
  | .divide => "/"
  | .remainder => "%"
  | .least => "min"
  | .greatest => "max"

def all : List Operation := [.add, .multiply, .subtract, .divide, .remainder, .least, .greatest]

def ofName? (name : String) : Option Operation := all.find? (·.name = name)

def leastOperands : Operation → Nat
  | .divide | .remainder => 2
  | _ => 1

def mostOperands : Operation → Option Nat
  | .subtract | .divide | .remainder => some 2
  | _ => none

end Operation

def maxDepth : Nat := 64

abbrev Parsed := Except MalformedCondition

def checkCount (operator : String) (least : Nat) (most : Option Nat) (operands : List Expr) :
    Parsed Unit :=
  if operands.length < least || most.any (· < operands.length) then
    .error (.operandCount operator least most operands.length)
  else .ok ()

def unary (operator : String) (build : Expr → Expr) (operands : List Expr) : Parsed Expr :=
  match operands with
  | [operand] => .ok (build operand)
  | _ => .error (.operandCount operator 1 (some 1) operands.length)

def Expr.ofOperator (operator : String) (operands : List Expr) : Parsed Expr :=
  match Comparison.ofName? operator, Operation.ofName? operator with
  | some comparison, _ => do
    checkCount operator 2 (some comparison.mostOperands) operands
    return .compare comparison operands
  | none, some operation => do
    checkCount operator operation.leastOperands operation.mostOperands operands
    return .arithmetic operation operands
  | none, none =>
    if operator = "and" then do
      checkCount operator 1 none operands
      return .all operands
    else if operator = "or" then do
      checkCount operator 1 none operands
      return .any operands
    else if operator = "!" then unary operator .not operands
    else if operator = "!!" then unary operator .truth operands
    else if operator = "if" || operator = "?:" then do
      checkCount operator 1 none operands
      return .branch operands
    else if operator = "in" then
      match operands with
      | [needle, haystack] => .ok (.member needle haystack)
      | _ => .error (.operandCount operator 2 (some 2) operands.length)
    else .ok (.predicate operator operands)

def sortedNames (fields : Table Value) : List String :=
  fields.names.mergeSort fun a b => !Text.before b a

mutual

def parseAt (depth : Nat) (document : Value) : Parsed Expr :=
  if maxDepth < depth then .error (.tooDeep maxDepth)
  else match document with
    | .list items | .tuple items => (parseItems (depth + 1) items).map .array
    | .object fields => parseFields (depth + 1) fields
    | scalar => .ok (.const scalar)

def parseItems (depth : Nat) : List Value → Parsed (List Expr)
  | [] => .ok []
  | item :: items => do
    let head ← parseAt depth item
    let tail ← parseItems depth items
    return head :: tail

def parseFields (depth : Nat) : List (String × Value) → Parsed Expr
  | [(operator, .list operands)] | [(operator, .tuple operands)] =>
    if operator = "" then .error .unnamedOperator
    else if operator = "var" then parseLookup depth operands
    else if operator = "missing" then parseMissing depth operands
    else do Expr.ofOperator operator (← parseItems depth operands)
  | [(operator, operand)] =>
    if operator = "" then .error .unnamedOperator
    else do
      let operand ← parseAt depth operand
      if operator = "var" then return .lookup operand none
      else if operator = "missing" then return .missing [operand]
      else Expr.ofOperator operator [operand]
  | fields => .error (.operatorCount (sortedNames fields))

/-- A path and its fallback; the fallback is looked at first. -/
def parseLookup (depth : Nat) : List Value → Parsed Expr
  | [path] => do return .lookup (← parseAt depth path) none
  | [path, fallback] => do
    let fallback ← parseAt depth fallback
    return .lookup (← parseAt depth path) (some fallback)
  | _ => .error .variableOperands

def parseMissing (depth : Nat) : List Value → Parsed Expr
  | [.list paths] | [.tuple paths] => do return .missing (← parseItems depth paths)
  | [] => .ok (.missing [])
  | path :: paths => do
    let head ← parseAt depth path
    let tail ← parseItems depth paths
    return .missing (head :: tail)

end

/-- Every document is an expression; one that is refused is the invalid expression. -/
def Expr.ofDocument (document : Value) : Expr :=
  match parseAt 0 document with
  | .ok expression => expression
  | .error reason => .invalid reason

end Gamebook.Condition
