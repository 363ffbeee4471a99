import Gamebook.Value.Basic

/-!
The two senses in which a value is true. They differ on empty objects only.
-/
namespace Gamebook.Value

/-- Truth in conditions: empty lists are false, objects are true. -/
def truthy (value : Value) : Bool :=
  match value with
  | .null => false
  | .bool value => value
  | .int value => value != 0
  | .real value => !value.isZero
  | .text value => value != ""
  | .list items | .tuple items => !items.isEmpty
  | .object _ | .view _ => true

/-- Truth in the everyday sense, where empty objects are false too. -/
def isFilled (value : Value) : Bool :=
  match value.entries? with
  | some entries => !entries.isEmpty
  | none => value.truthy

end Gamebook.Value
