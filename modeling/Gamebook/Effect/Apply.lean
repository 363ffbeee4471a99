import Gamebook.Effect.Amount
import Gamebook.Effect.Status

/-!
Authored effects, which change a game state in place. In a batch the others still run when one cannot
be applied.
-/
namespace Gamebook

structure EffectDef where
  type : String
  target : String
  operation : String
  value : Value
  metadata : Table Value

namespace EffectDef

/-- Text as it is; what is no text as messages show it; nothing as empty text. -/
def part (fields : Table Value) (name : String) : Except Fault String :=
  ((fields.get? name).map Value.toText).getD (.ok "")

def ofFields (fields : Table Value) : Except Fault EffectDef := do
  return {
    type := ← part fields "type"
    target := ← part fields "target"
    operation := ← part fields "operation"
    value := Value.field fields "value"
    metadata := ((fields.get? "metadata").bind Value.fields?).getD [] }

def ofValue : Value → Except Fault EffectDef
  | .object fields => ofFields fields
  | _ => .error .missingPart

def toValue (effect : EffectDef) : Value :=
  .object ([("type", .text effect.type), ("target", .text effect.target),
    ("operation", .text effect.operation), ("value", effect.value)] ++
    if effect.metadata.isEmpty then [] else [("metadata", .object effect.metadata)])

end EffectDef

namespace Effect

inductive Target where
  | wallet
  | inventory
  | stat
  | flag
  | status
  deriving DecidableEq

namespace Target

def name : Target → String
  | .wallet => "wallet"
  | .inventory => "inventory"
  | .stat => "stat"
  | .flag => "flag"
  | .status => "status_effect"

def all : List Target := [.wallet, .inventory, .stat, .flag, .status]

def ofName? (name : String) : Option Target := all.find? (·.name = name)

end Target

def defaultBalance : Value := .int 0
def defaultQuantity : Value := .int 0
def defaultStat : Value := .int 10

/-- What is done to a state in place. A failure leaves the state as far as it was changed. -/
abbrev Acting := EStateM Failure GameState

def applyWallet (effect : EffectDef) : Acting Unit := do
  let amount ← liftExcept (amountOf s!"wallet value for '{effect.target}'" effect.value)
  let wallets ← liftExcept (Fault.lift (← get).wallets.get)
  let current := (wallets.get? (.text effect.target)).getD defaultBalance
  let balance ← liftExcept (nextBalance effect.operation current amount.toValue)
  modify fun state => { state with wallets := .known (wallets.insert (.text effect.target) balance) }

def applyInventory (effect : EffectDef) : Acting Unit := do
  let amount ← liftExcept (amountOf s!"inventory value for '{effect.target}'" effect.value)
  let inventory ← liftExcept (Fault.lift (← get).inventory.get)
  let current := (inventory.get? (.text effect.target)).getD defaultQuantity
  let quantity ← liftExcept (nextQuantity effect.operation current amount.toValue)
  let left := if quantity.equals (.int 0) then inventory.erase (.text effect.target)
    else inventory.insert (.text effect.target) quantity
  modify fun state => { state with inventory := .known left }

def applyStat (effect : EffectDef) : Acting Unit := do
  let amount ← liftExcept (amountOf s!"stat value for '{effect.target}'" effect.value)
  let stats ← liftExcept (Fault.lift (← get).stats.get)
  let current := (stats.get? (.text effect.target)).getD defaultStat
  let value ← liftExcept (nextStat effect.operation current amount.toValue)
  modify fun state => { state with stats := .known (stats.insert (.text effect.target) value) }

def applyFlag (effect : EffectDef) : Acting Unit := do
  let flags ← liftExcept (Fault.lift (← get).flags.get)
  let current := (flags.get? (.text effect.target)).getD .null
  let value ← liftExcept (nextFlag effect.target effect.operation current effect.value)
  modify fun state => { state with flags := .known (flags.insert (.text effect.target) value) }

def refuseDuration (given : Value) : Outcome Value :=
  if given.isWritable then refuse (.duration given) else .error (.fault .badValue)

def durationOf (effect : EffectDef) : Outcome Value :=
  match Value.field effect.metadata "duration" with
  | .null => .ok .null
  | .int turns => if turns < 0 then refuseDuration (.int turns) else .ok (.int turns)
  | given => refuseDuration given

def sourceOf (effect : EffectDef) : Outcome Value :=
  match Value.field effect.metadata "source" with
  | .null => .ok .null
  | source => if source.isWritable then .ok (.text source.asText) else .error (.fault .badValue)

def statusOf (effect : EffectDef) : Outcome StatusEffect := do
  let value ← amountOf s!"status effect value for '{effect.target}'" effect.value
  let duration ← durationOf effect
  let source ← sourceOf effect
  return ⟨.text effect.target, value.toValue, duration, source⟩

def applyStatus (effect : EffectDef) : Acting Unit :=
  match Operation.ofName? effect.operation with
  | some .subtract => do
    let effects ← liftExcept (Fault.lift (← get).statusEffects.entries)
    let left := StatusEffect.remove (.text effect.target) effects
    modify fun state => { state with statusEffects := .known (left.map .known) }
  | some .add | some .set => do
    let status ← liftExcept (statusOf effect)
    let effects ← liftExcept (Fault.lift (← get).statusEffects.entries)
    let changed := StatusEffect.upsert status effects
    modify fun state => { state with statusEffects := .known (changed.map .known) }
  | _ => throw (.effect (.statusOperation effect.operation))

/-- Does what an effect says and tells whether there is such a type of effects. -/
def perform (effect : EffectDef) : Acting Bool := do
  match Target.ofName? effect.type with
  | some .wallet => applyWallet effect
  | some .inventory => applyInventory effect
  | some .stat => applyStat effect
  | some .flag => applyFlag effect
  | some .status => applyStatus effect
  | none => return false
  return true

structure Batch where
  state : GameState
  applied : List EffectDef
  broken : Option Fault

/-- Runs effects in order on what those before them left. A refused or unknown effect is skipped, a
fault ends the batch. -/
def run (state : GameState) : List EffectDef → Batch
  | [] => ⟨state, [], none⟩
  | effect :: effects =>
    match perform effect state with
    | .ok true next =>
      let batch := run next effects
      { batch with applied := effect :: batch.applied }
    | .error (.fault fault) left => ⟨left, [], some fault⟩
    | .ok false left | .error _ left => run left effects

/-- Runs a batch and stamps the state, unless there is nothing to run or a fault ends it. -/
def applyAll (now : Timestamp) (effects : List EffectDef) (state : GameState) : Batch :=
  let batch := run state effects
  if effects.isEmpty || batch.broken.isSome then batch
  else { batch with state := batch.state.touch now }

/-- Runs a batch of documents. One that is no effect ends the batch where it stands. -/
def applyDocuments (now : Timestamp) (documents : List Value) (state : GameState) : Batch :=
  let read := documents.map EffectDef.ofValue
  let effects := (read.takeWhile Except.isOk).filterMap Except.toOption
  match read.find? (!·.isOk) with
  | some (.error fault) =>
    let batch := run state effects
    { batch with broken := some (batch.broken.getD fault) }
  | _ => applyAll now effects state

def passTurn (state : GameState) : Except Fault GameState := do
  let entries ← state.statusEffects.items .other
  return { state with statusEffects := .known ((← StatusEffect.tickAll entries).map .known) }

end Effect
end Gamebook
