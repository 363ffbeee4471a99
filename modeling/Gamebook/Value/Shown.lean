import Gamebook.Value.Basic

/-!
Values as messages show them: text in quotes, lists in brackets, fixed lists in parentheses, objects
in braces, read-only objects inside a word that names them.
-/
namespace Gamebook.Value

def commas (parts : List String) : String := ", ".intercalate parts

mutual

def shown : Value → String
  | .null => "None"
  | .bool value => if value then "True" else "False"
  | .int value => toString value
  | .real value => value.text
  | .text value => Text.quoted value
  | .list items => "[" ++ commas (shownItems items) ++ "]"
  | .tuple [item] => "(" ++ item.shown ++ ",)"
  | .tuple items => "(" ++ commas (shownItems items) ++ ")"
  | .object fields => "\x7b" ++ commas (shownFields fields) ++ "\x7d"
  | .view entries => "mappingproxy(\x7b" ++ commas (shownEntries entries) ++ "\x7d)"

def shownItems : List Value → List String
  | [] => []
  | item :: items => item.shown :: shownItems items

def shownFields : List (String × Value) → List String
  | [] => []
  | (name, entry) :: fields => (Text.quoted name ++ ": " ++ entry.shown) :: shownFields fields

def shownEntries : List (Value × Value) → List String
  | [] => []
  | (key, entry) :: entries => (key.shown ++ ": " ++ entry.shown) :: shownEntries entries

end

/-- Whether the value can be shown cut short: of a list the first six items, of an object the first
four fields by name, and nothing that stands deeper than `level`. -/
def isAbridgeable : Nat → Value → Bool
  | _, .int value => (Number.int value).isWritable
  | level + 1, .list items | level + 1, .tuple items => (items.take 6).all (isAbridgeable level)
  | level + 1, .object fields =>
    ((fields.mergeSort fun a b => !Text.before b.1 a.1).take 4).all fun field =>
      isAbridgeable level field.2
  | _, _ => true

/-- Text without quotes, anything else as it is shown. -/
def asText : Value → String
  | .text value => value
  | value => value.shown

def toText (value : Value) : Except Fault String :=
  if value.isWritable then .ok value.asText else .error .badValue

end Gamebook.Value
