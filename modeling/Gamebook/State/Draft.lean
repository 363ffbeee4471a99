import Gamebook.State.Basic
import Gamebook.Value.Arithmetic

/-!
States put together and changed field by field without any check, so that a field may be anything.
-/
namespace Gamebook

namespace GameState.Draft

def timestamp (value : Value) : Loose Timestamp :=
  match value.text?.bind Timestamp.ofText? with
  | some time => .known time
  | none => .other value

def choiceRecord (value : Value) : Loose ChoiceRecord :=
  match value with
  | .object fields => .known {
      nodeId := Value.field fields "nodeId"
      choiceIndex := Value.field fields "choiceIndex"
      choiceText := Value.field fields "choiceText"
      timestamp := timestamp (Value.field fields "timestamp") }
  | value => .other value

def statusEffect (value : Value) : Loose StatusEffect :=
  match value with
  | .object fields => .known {
      type := Value.field fields "type"
      value := (Assoc.get? fields "value").getD (.int 0)
      duration := Value.field fields "duration"
      source := Value.field fields "source" }
  | value => .other value

def list {α : Type} (read : Value → α) : Value → Loose (List α)
  | .list items => .known (items.map read)
  | value => .other value

def table : Value → Loose Dict
  | .object fields => .known (.ofTable fields)
  | value => .other value

def fieldOr {α : Type} (fields : Table Value) (name : String) (read : Value → α) (base : α) : α :=
  ((fields.get? name).map read).getD base

def assign (table : Loose Dict) (key value : Value) : Except Fault (Loose Dict) :=
  match table, key.whole? with
  | .known dict, _ => if key.isKey then .ok (.known (dict.insert key value)) else .error .wrongKind
  | .other (.list items), some place =>
    let place := if place < 0 then place + items.length else place
    if place < 0 || items.length ≤ place then .error .exhausted
    else .ok (.other (.list (items.set place.toNat value)))
  | .other _, _ => .error .wrongKind

end GameState.Draft

open GameState.Draft in
/-- Assigns an entry in the table that a field holds; flags are meant by any other name. -/
def GameState.withEntry (field : String) (key value : Value) (state : GameState) :
    Except Fault GameState := do
  match field with
  | "stats" => return { state with stats := ← assign state.stats key value }
  | "wallets" => return { state with wallets := ← assign state.wallets key value }
  | "inventory" => return { state with inventory := ← assign state.inventory key value }
  | _ => return { state with flags := ← assign state.flags key value }

open GameState.Draft in
/-- Takes over the fields that are given; the others stay as they are in a state. -/
def GameState.withFields (fields : Table Value) (base : GameState) : GameState where
  playerId := fieldOr fields "playerId" id base.playerId
  storyId := fieldOr fields "storyId" id base.storyId
  saveId := fieldOr fields "saveId" id base.saveId
  currentNodeId := fieldOr fields "currentNodeId" id base.currentNodeId
  visitedNodes := fieldOr fields "visitedNodes" (list id) base.visitedNodes
  choicesHistory := fieldOr fields "choicesHistory" (list choiceRecord) base.choicesHistory
  stats := fieldOr fields "stats" table base.stats
  wallets := fieldOr fields "wallets" table base.wallets
  inventory := fieldOr fields "inventory" table base.inventory
  flags := fieldOr fields "flags" table base.flags
  statusEffects := fieldOr fields "statusEffects" (list statusEffect) base.statusEffects
  createdAt := fieldOr fields "createdAt" timestamp base.createdAt
  updatedAt := fieldOr fields "updatedAt" timestamp base.updatedAt
  seed := fieldOr fields "seed" id base.seed

end Gamebook
