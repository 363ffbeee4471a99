import Gamebook.State.Basic
import Gamebook.Text.Split

/-!
What a condition can see of a game: read-only tables of the state and tables derived from it, and
the one object through which paths reach them. It is made by going through the whole state, so it
can be had only of a state whose parts can be gone through.
-/
namespace Gamebook.Condition

structure Context where
  stats : Dict
  wallets : Dict
  inventory : Dict
  flags : Dict
  statusEffects : List StatusEffect
  /-- Holds `true` for the type of every status effect. -/
  hasStatusEffect : Dict
  visitedNodes : List Value
  /-- Holds `true` for every visited node. -/
  hasVisited : Dict
  currentNodeId : Value
  choiceCount : Nat

namespace Context

/-- A table that holds `true` for every one of the values, all of which have to be possible keys. -/
def presence (values : List Value) : Except Fault Dict :=
  if values.all Value.isKey then .ok (Assoc.ofPairs (values.map (·, .bool true)))
  else .error .wrongKind

def ofState (state : GameState) : Except Fault Context := do
  let effects ← state.statusEffects.entries
  let stats ← state.stats.dict
  let wallets ← state.wallets.dict
  let inventory ← state.inventory.dict
  let flags ← state.flags.dict
  let hasStatusEffect ← presence (effects.map (·.type))
  let visits ← state.visitedNodes.items id
  let hasVisited ← presence visits
  let choiceCount ← state.choiceCount
  return {
    stats := stats
    wallets := wallets
    inventory := inventory
    flags := flags
    statusEffects := effects
    hasStatusEffect := hasStatusEffect
    visitedNodes := visits
    hasVisited := hasVisited
    currentNodeId := state.currentNodeId
    choiceCount := choiceCount }

def record (fields : Table Value) : Value := .view (Dict.ofTable fields)

def effectView (effect : StatusEffect) : Value :=
  record [("type", effect.type), ("value", effect.value), ("duration", effect.duration),
    ("source", effect.source)]

def root (context : Context) : Value :=
  record [
    ("stats", .view context.stats),
    ("wallets", .view context.wallets),
    ("inventory", .view context.inventory),
    ("flags", .view context.flags),
    ("statusEffects", .tuple (context.statusEffects.map effectView)),
    ("hasStatusEffect", .view context.hasStatusEffect),
    ("visitedNodes", .tuple context.visitedNodes),
    ("hasVisited", .view context.hasVisited),
    ("currentNodeId", context.currentNodeId),
    ("choiceCount", .int context.choiceCount)]

end Context

/-- The item of a list that a path part names: digits that make a number below its length. Digit
characters that make no number are an error. -/
def itemAt (items : List Value) (part : List Char) : Except Fault (Option Value) :=
  if Text.allDigits part then
    match Text.readInt? part with
    | some index => .ok items[index.toNat]?
    | none => .error .badValue
  else .ok none

def stepInto (value : Value) (part : List Char) : Except Fault (Option Value) :=
  match value with
  | .object fields => .ok (Assoc.get? fields (String.ofList part))
  | .view entries => .ok (Assoc.get? entries (.text (String.ofList part)))
  | .list items | .tuple items => itemAt items part
  | _ => .ok none

def follow (value : Value) : List (List Char) → Except Fault (Option Value)
  | [] => .ok (some value)
  | part :: parts => do
    match ← stepInto value part with
    | some next => follow next parts
    | none => return none

end Gamebook.Condition
