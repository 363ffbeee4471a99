import Gamebook.Number.Basic
import Gamebook.Table
import Gamebook.Text.Quoted

/-!
Dynamic values: what a story document, a saved game or a condition may hold. Lists and objects come
in two kinds each, those of documents and the fixed ones that the game lends to conditions; strict
comparison and messages tell the kinds apart.
-/
namespace Gamebook

inductive Value where
  | null
  | bool (value : Bool)
  | int (value : Int)
  | real (value : Double)
  | text (value : String)
  | list (items : List Value)
  /-- A fixed list, lent to conditions. -/
  | tuple (items : List Value)
  | object (fields : List (String × Value))
  /-- A read-only object, lent to conditions; its keys need not be names. -/
  | view (entries : List (Value × Value))
  deriving Inhabited

namespace Value

/-- The word that messages use for the kind of a value. -/
def kind : Value → String
  | .null => "NoneType"
  | .bool _ => "bool"
  | .int _ => "int"
  | .real _ => "float"
  | .text _ => "str"
  | .list _ => "list"
  | .tuple _ => "tuple"
  | .object _ => "dict"
  | .view _ => "mappingproxy"

def items? : Value → Option (List Value)
  | .list items | .tuple items => some items
  | _ => none

def fields? : Value → Option (Table Value)
  | .object fields => some fields
  | _ => none

def entries? : Value → Option (List (Value × Value))
  | .object fields => some (fields.map fun (name, entry) => (.text name, entry))
  | .view entries => some entries
  | _ => none

def text? : Value → Option String
  | .text value => some value
  | _ => none

def int? : Value → Option Int
  | .int value => some value
  | _ => none

def bool? : Value → Option Bool
  | .bool value => some value
  | _ => none

def number? : Value → Option Number
  | .int value => some (.int value)
  | .real value => some (.real value)
  | _ => none

/-- A number or a boolean, which counts as zero or one. -/
def countable? : Value → Option Number
  | .bool value => some (.int (if value then 1 else 0))
  | value => value.number?

def isNull : Value → Bool
  | .null => true
  | _ => false

def isNaN : Value → Bool
  | .real x => x.isNaN
  | _ => false

def present? : Value → Option Value
  | .null => none
  | value => some value

def field (fields : Table Value) (name : String) : Value := (fields.get? name).getD .null

mutual

/-- Whether the value may be a key: lists and objects of documents may not. -/
def isKey : Value → Bool
  | .list _ | .object _ | .view _ => false
  | .tuple items => allKeys items
  | _ => true

def allKeys : List Value → Bool
  | [] => true
  | item :: items => item.isKey && allKeys items

end

mutual

def isWritable : Value → Bool
  | .int value => (Number.int value).isWritable
  | .list items | .tuple items => allWritable items
  | .object fields => fieldsWritable fields
  | .view entries => entriesWritable entries
  | _ => true

def allWritable : List Value → Bool
  | [] => true
  | item :: items => item.isWritable && allWritable items

def fieldsWritable : List (String × Value) → Bool
  | [] => true
  | (_, entry) :: fields => entry.isWritable && fieldsWritable fields

def entriesWritable : List (Value × Value) → Bool
  | [] => true
  | (key, entry) :: entries => key.isWritable && entry.isWritable && entriesWritable entries

end

mutual

def depth : Value → Nat
  | .list items | .tuple items => itemsDepth items + 1
  | .object fields => fieldsDepth fields + 1
  | .view entries => entriesDepth entries + 1
  | _ => 0

def itemsDepth : List Value → Nat
  | [] => 0
  | item :: items => max item.depth (itemsDepth items)

def fieldsDepth : List (String × Value) → Nat
  | [] => 0
  | (_, entry) :: fields => max entry.depth (fieldsDepth fields)

def entriesDepth : List (Value × Value) → Nat
  | [] => 0
  | (_, entry) :: entries => max entry.depth (entriesDepth entries)

end

end Value

namespace Number

def toValue : Number → Value
  | .int value => .int value
  | .real value => .real value

end Number
end Gamebook
