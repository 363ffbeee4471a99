import Gamebook.Value.Basic

/-!
Equality of dynamic values. Numbers and booleans compare by what they count, lists item by item,
objects by key regardless of order and of whether they are read-only. A list never equals a fixed
list. On its own a not-a-number differs from everything; as an entry of a list or an object it is
equal to the very same one.
-/
namespace Gamebook.Value

def sameScalar (a b : Value) : Bool :=
  match a, b with
  | .null, .null => true
  | .text a, .text b => a == b
  | a, b => match a.countable?, b.countable? with
    | some a, some b => a.eq b || a.isSameNaN b
    | _, _ => false

def entryUnder? (entries : List (Value × Value)) (key : Value) : Option Value :=
  (entries.find? fun pair => sameScalar pair.1 key).map (·.2)

mutual

def same : Value → Value → Bool
  | .list items, .list others => sameItems items others
  | .tuple items, .tuple others => sameItems items others
  | .object fields, other => match other.entries? with
    | some others => fields.length == others.length && sameFields fields others
    | none => false
  | .view entries, other => match other.entries? with
    | some others => entries.length == others.length && sameEntries entries others
    | none => false
  | value, other => sameScalar value other

def sameItems : List Value → List Value → Bool
  | [], [] => true
  | item :: items, other :: others => same item other && sameItems items others
  | _, _ => false

def sameFields : List (String × Value) → List (Value × Value) → Bool
  | [], _ => true
  | (name, entry) :: fields, others => (match entryUnder? others (.text name) with
    | some other => same entry other
    | none => false) && sameFields fields others

def sameEntries : List (Value × Value) → List (Value × Value) → Bool
  | [], _ => true
  | (key, entry) :: entries, others => (match entryUnder? others key with
    | some other => same entry other
    | none => false) && sameEntries entries others

end

/-- Equality as entries, and thus as keys. -/
instance : BEq Value := ⟨same⟩

/-- Equality of two values on their own. -/
def equals (a b : Value) : Bool := !a.isNaN && same a b

def isAmong (value : Value) (items : List Value) : Bool := items.any (same value)

end Gamebook.Value
