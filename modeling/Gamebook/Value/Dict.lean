import Gamebook.Fault
import Gamebook.Text.Split
import Gamebook.Value.Equality
import Gamebook.Value.Shown

/-!
Values as collections. A list is gone through item by item, a text character by character, an object
key by key, and nothing else can be gone through at all. Pairs of a key and an entry make an object;
its keys may be any values that can be keys, and a key keeps the form in which it came first.
-/
namespace Gamebook

abbrev Dict := Assoc Value Value

namespace Value

/-- The items in the order in which a value is gone through. -/
def elements : Value → Except Fault (List Value)
  | .list items | .tuple items => .ok items
  | .text content => .ok ((Text.signs content.toList).map fun sign => .text (String.ofList sign))
  | .object fields => .ok (fields.map fun field => .text field.1)
  | .view entries => .ok (Assoc.keys entries)
  | _ => .error .wrongKind

def size (value : Value) : Except Fault Nat := do return (← value.elements).length

def isKeyOf (key : Value) (dict : Dict) : Except Fault Bool :=
  if key.isKey then .ok (dict.contains key) else .error .wrongKind

/-- Whether something is an item of a list, a part of a text or a key of an object. -/
def holds (value part : Value) : Except Fault Bool :=
  match value, part, value.items?, value.entries? with
  | .text content, .text piece, _, _ => 
    .ok (Text.occursIn (Text.signs piece.toList) (Text.signs content.toList))
  | _, part, some items, _ => .ok (part.isAmong items)
  | _, part, none, some entries => part.isKeyOf entries
  | _, _, none, none => .error .wrongKind

def asPair (value : Value) : Except Fault (Value × Value) := do
  match ← value.elements with
  | [key, entry] => if key.isKey then return (key, entry) else throw .wrongKind
  | _ => throw .badValue

def asDict (value : Value) : Except Fault Dict :=
  match value.entries? with
  | some entries => .ok entries
  | none => do return Assoc.ofPairs (← (← value.elements).mapM asPair)

def keyName : Value → String
  | .text value => value
  | .null => "null"
  | .bool value => if value then "true" else "false"
  | .real value => value.textWith .json
  | value => value.shown

end Value

namespace Dict

def ofTable (table : Table Value) : Dict := table.map fun (name, entry) => (.text name, entry)

def isNamed (dict : Dict) : Bool := dict.all fun entry => entry.1.text?.isSome

def named (dict : Dict) : Table Value :=
  Assoc.ofPairs (dict.map fun (key, entry) => (key.keyName, entry))

end Dict

namespace Value

mutual

/-- The value as documents hold it, with fixed lists and read-only objects made ordinary. -/
def plain : Value → Value
  | .list items | .tuple items => .list (plainItems items)
  | .object fields => .object (plainFields fields)
  | .view entries => .object (Assoc.ofPairs (plainEntries entries))
  | value => value

def plainItems : List Value → List Value
  | [] => []
  | item :: items => item.plain :: plainItems items

def plainFields : List (String × Value) → List (String × Value)
  | [] => []
  | (name, entry) :: fields => (name, entry.plain) :: plainFields fields

def plainEntries : List (Value × Value) → List (String × Value)
  | [] => []
  | (key, entry) :: entries => (key.keyName, entry.plain) :: plainEntries entries

end

end Value
end Gamebook
