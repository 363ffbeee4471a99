import Gamebook.Fault
import Gamebook.Value.Equality

/-!
Arithmetic and order on dynamic values. Numbers and booleans are calculated with as numbers; texts
and lists are joined to their like and repeated by whole numbers. Texts are ordered as texts, lists
by the first items that differ.
-/
namespace Gamebook.Value

def whole? (value : Value) : Option Int :=
  match value.countable? with
  | some (.int count) => some count
  | _ => none

def calculate (operation : Number → Number → Except Fault Number) (a b : Value) :
    Except Fault Value :=
  match a.countable?, b.countable? with
  | some a, some b => do return (← operation a b).toValue
  | _, _ => .error .wrongKind

def maxCount : Int := 2 ^ 63 - 1

def maxHeld : Int := 2 ^ 22

/-- Items over and over again; not at all for a count that is not positive. -/
def repeated {α : Type} (items : List α) (count : Int) : Except Fault (List α) :=
  if maxCount < count || count < -maxCount - 1 then .error .tooLarge
  else if items.isEmpty then .ok []
  else if count * items.length ≤ maxHeld then .ok (List.replicate count.toNat items).flatten
  else .error .outOfMemory

/-- A text that could not even be counted is refused for its length. -/
def repeatedText (content : String) (count : Int) : Except Fault Value :=
  if maxCount < count * Text.size content.toList then .error .tooLarge
  else do return .text (String.ofList (← repeated content.toList count))

def add (a b : Value) : Except Fault Value :=
  match a, b with
  | .text a, .text b => .ok (.text (a ++ b))
  | .list a, .list b => .ok (.list (a ++ b))
  | a, b => calculate Number.add a b

def sub : Value → Value → Except Fault Value := calculate Number.sub

def mul (a b : Value) : Except Fault Value :=
  match a, b, a.whole?, b.whole? with
  | .text content, _, _, some count | _, .text content, some count, _ => repeatedText content count
  | .list items, _, _, some count | _, .list items, some count, _ => do
    return .list (← repeated items count)
  | a, b, _, _ => calculate Number.mul a b

mutual

def isAbove : Value → Value → Except Fault Bool
  | .text a, .text b => .ok (Text.before b a)
  | .list items, .list others | .tuple items, .tuple others => isAboveItems items others
  | a, b => match a.countable?, b.countable? with
    | some a, some b => .ok (b.lt a)
    | _, _ => .error .wrongKind

def isAboveItems : List Value → List Value → Except Fault Bool
  | [], _ => .ok false
  | _ :: _, [] => .ok true
  | item :: items, other :: others =>
    if same item other then isAboveItems items others else isAbove item other

end

end Gamebook.Value
