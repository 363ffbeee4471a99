import Gamebook.State.Basic

/-!
Lists of status effects as ordered maps keyed by type.
-/
namespace Gamebook.StatusEffect

def hasType (type : Value) (effect : StatusEffect) : Bool := effect.type.equals type

def remove (type : Value) (effects : List StatusEffect) : List StatusEffect :=
  effects.filter fun effect => !effect.hasType type

/-- Puts an effect in the place of the first of its type, or last, and drops the others. -/
def upsert (effect : StatusEffect) : List StatusEffect → List StatusEffect
  | [] => [effect]
  | first :: rest =>
    if first.hasType effect.type then effect :: remove effect.type rest
    else first :: upsert effect rest

def tick (effect : StatusEffect) : Except Fault (Option StatusEffect) :=
  match effect.duration.present?, effect.duration.countable? with
  | none, _ => .ok (some effect)
  | _, some (.int turns) =>
    .ok (if 1 < turns then some { effect with duration := .int (turns - 1) } else none)
  | _, some (.real turns) =>
    let left := turns.sub (Double.ofUnits false Double.one)
    .ok (if left.compareInt? 0 = some .lt then some { effect with duration := .real left } else none)
  | _, none => .error .wrongKind

def tickAll (entries : List (Loose StatusEffect)) : Except Fault (List StatusEffect) := do
  return (← entries.mapM fun entry => do tick (← entry.get)).filterMap id

end Gamebook.StatusEffect
