import Gamebook.Host
import Gamebook.Time.Timestamp
import Gamebook.Value.Dict

/-!
The complete progress of one playthrough. Entries are kept as they were handed over; which of them
are acceptable is for validation to say, so an entry may be something other than it should be. Where
a list or a table is only gone through, anything that can be gone through will do.
-/
namespace Gamebook

/-- An entry that should be an `α` but may be any value. -/
inductive Loose (α : Type) where
  | known (entry : α)
  | other (value : Value)

namespace Loose
variable {α : Type}

def get : Loose α → Except Fault α
  | .known entry => .ok entry
  | .other _ => .error .missingPart

/-- The items, where a list is only gone through. -/
def items (ofValue : Value → α) : Loose (List α) → Except Fault (List α)
  | .known items => .ok items
  | .other value => do return (← value.elements).map ofValue

def size : Loose (List α) → Except Fault Nat
  | .known items => .ok items.length
  | .other value => value.size

def entries (list : Loose (List (Loose α))) : Except Fault (List α) := do
  (← list.items .other).mapM get

def dict : Loose Dict → Except Fault Dict
  | .known dict => .ok dict
  | .other value => value.asDict

def depth : Loose Dict → Nat
  | .known dict => Value.entriesDepth dict
  | .other value => value.depth

def copied (limit : Nat) (table : Loose Dict) : Except Fault (Loose Dict) :=
  if table.depth ≤ limit then .ok table else .error .tooDeep

def hasKey (table : Loose Dict) (key : Value) : Except Fault Bool :=
  match table with
  | .known dict => key.isKeyOf dict
  | .other value => value.holds key

end Loose

structure ChoiceRecord where
  nodeId : Value
  choiceIndex : Value
  choiceText : Value
  timestamp : Loose Timestamp

structure StatusEffect where
  type : Value
  value : Value
  duration : Value
  source : Value

structure GameState where
  playerId : Value
  storyId : Value
  saveId : Value
  currentNodeId : Value
  visitedNodes : Loose (List Value)
  choicesHistory : Loose (List (Loose ChoiceRecord))
  stats : Loose Dict
  wallets : Loose Dict
  inventory : Loose Dict
  flags : Loose Dict
  statusEffects : Loose (List (Loose StatusEffect))
  createdAt : Loose Timestamp
  updatedAt : Loose Timestamp
  /-- Null for a playthrough without a seed. -/
  seed : Value

namespace GameState

def defaultStats : Dict :=
  ["knowledge", "dexterity", "charisma", "strength", "luck"].map (.text ·, .int 10)

def create (now : Timestamp) (playerId storyId startNodeId saveId seed : Value) : GameState where
  playerId := playerId
  storyId := storyId
  saveId := saveId
  currentNodeId := startNodeId
  visitedNodes := .known [startNodeId]
  choicesHistory := .known []
  stats := .known defaultStats
  wallets := .known []
  inventory := .known []
  flags := .known []
  statusEffects := .known []
  createdAt := .known now
  updatedAt := .known now
  seed := seed

def withStats (stats : Value) (state : GameState) : Except Fault GameState := do
  return { state with stats := .known ((← state.stats.get).update (← stats.asDict)) }

def touch (now : Timestamp) (state : GameState) : GameState :=
  { state with updatedAt := .known now }

def recordChoice (now : Timestamp) (nodeId choiceIndex choiceText : Value) (state : GameState) :
    Except Fault GameState := do
  let record : ChoiceRecord := ⟨nodeId, choiceIndex, choiceText, .known now⟩
  return touch now { state with
    choicesHistory := .known ((← state.choicesHistory.get) ++ [.known record]) }

def hasVisited (state : GameState) (nodeId : Value) : Except Fault Bool :=
  match state.visitedNodes with
  | .known nodes => .ok (nodeId.isAmong nodes)
  | .other value => value.holds nodeId

/-- Puts the player at a node, whether or not it was visited before. -/
def placeAt (nodeId : Value) (state : GameState) : GameState := { state with currentNodeId := nodeId }

def noteVisit (now : Timestamp) (state : GameState) : Except Fault GameState := do
  if ← state.hasVisited state.currentNodeId then return state.touch now
  else return touch now { state with
    visitedNodes := .known ((← state.visitedNodes.get) ++ [state.currentNodeId]) }

def moveTo (now : Timestamp) (nodeId : Value) (state : GameState) : Except Fault GameState :=
  (state.placeAt nodeId).noteVisit now

def choiceCount (state : GameState) : Except Fault Nat := state.choicesHistory.size

/-- Copying goes through every list, table and record, so it fails where one is none; only flags
are copied whatever they are, and with what they hold. -/
def copy [Host] (state : GameState) : Except Fault GameState := do
  let visits ← state.visitedNodes.items id
  let history ← state.choicesHistory.entries
  let stats ← state.stats.dict
  let wallets ← state.wallets.dict
  let inventory ← state.inventory.dict
  let flags ← state.flags.copied Host.cloning
  let effects ← state.statusEffects.entries
  return { state with
    visitedNodes := .known visits
    choicesHistory := .known (history.map .known)
    stats := .known stats
    wallets := .known wallets
    inventory := .known inventory
    flags := flags
    statusEffects := .known (effects.map .known) }

end GameState
end Gamebook
