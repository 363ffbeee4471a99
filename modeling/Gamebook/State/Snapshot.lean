import Gamebook.State.Validate

/-!
States as documents, and documents as states. Reading is lenient about what older documents leave
out and strict about everything else; what it accepts has been validated.
-/
namespace Gamebook
variable [Host]

namespace Snapshot

def version : Int := 1

def writeTimestamp (time : Loose Timestamp) : Except Fault Value := do
  return .text (← time.get).text

def writeRecord (record : ChoiceRecord) : Except Fault Value := do
  return .object [("nodeId", record.nodeId), ("choiceIndex", record.choiceIndex),
    ("choiceText", record.choiceText), ("timestamp", ← writeTimestamp record.timestamp)]

def optional (name : String) (value : Value) : List (String × Value) :=
  if value.isNull then [] else [(name, value)]

def writeEffect (effect : StatusEffect) : Value :=
  .object ([("type", effect.type), ("value", effect.value)] ++
    optional "duration" effect.duration ++ optional "source" effect.source)

def writeTable (table : Loose Dict) : Except Fault Value := do
  return .object (← table.dict).named

/-- Flags are taken as they are, even if they are no table. -/
def writeFlags : Loose Dict → Value
  | .known flags => .object flags.named
  | .other value => value

def isNamedTable : Loose Dict → Bool
  | .known dict => dict.isNamed
  | .other _ => true

def isNamed (state : GameState) : Bool :=
  isNamedTable state.stats && isNamedTable state.wallets && isNamedTable state.inventory
    && isNamedTable state.flags

def ofState (state : GameState) : Except Fault (Table Value) := do
  return [
    ("version", .int version),
    ("playerId", state.playerId),
    ("storyId", state.storyId),
    ("saveId", state.saveId),
    ("currentNodeId", state.currentNodeId),
    ("visitedNodes", .list (← state.visitedNodes.items id)),
    ("choicesHistory", .list (← (← state.choicesHistory.entries).mapM writeRecord)),
    ("stats", ← writeTable state.stats),
    ("wallets", ← writeTable state.wallets),
    ("inventory", ← writeTable state.inventory),
    ("flags", writeFlags (← state.flags.copied Host.copying)),
    ("statusEffects", .list ((← state.statusEffects.entries).map writeEffect)),
    ("createdAt", ← writeTimestamp state.createdAt),
    ("updatedAt", ← writeTimestamp state.updatedAt)] ++ optional "seed" state.seed

def readText (field : String) (value : Value) : Outcome Value := do
  require value.isFilledText field .textMissing
  return value

def readOptionalText (field : String) (value : Value) : Outcome Value := do
  require (value.isNull || value.text?.isSome) field (.required .optionalText)
  return value

def readTable (field : String) : Value → Outcome (Loose Dict)
  | .null => .ok (.known [])
  | .object entries => .ok (.known (.ofTable entries))
  | _ => invalid field (.required .mapping)

def readFlags (field : String) (value : Value) : Outcome (Loose Dict) := do
  Fault.lift ((← readTable field value).copied Host.copying)

def readVisited : Value → Outcome (Loose (List Value))
  | .null => .ok (.known [])
  | .list items => do
    require (items.all (·.text?.isSome)) "visitedNodes" (.required .textList)
    return .known items
  | _ => invalid "visitedNodes" (.required .textList)

def readTimestamp (field : String) : Value → Outcome (Loose Timestamp)
  | .text text => match Timestamp.ofSaved? text with
    | some time => .ok (.known time)
    | none => invalid field (.timestampText text)
  | _ => invalid field .timestamp

/-- A list of objects, read one after the other with their places; null counts as empty. -/
def readEntries {α : Type} (field : String) (read : String → Table Value → Outcome α) :
    Value → Outcome (Loose (List (Loose α)))
  | .null => .ok (.known [])
  | .list items => do
    return .known (← items.zipIdx.mapM fun (item, index) => do
      let place := s!"{field}[{index}]"
      match item with
      | .object fields => return .known (← read place fields)
      | _ => invalid place (.required .object))
  | _ => invalid field (.required .list)

def readRecord (place : String) (fields : Table Value) : Outcome ChoiceRecord := do
  let choiceIndex := Value.field fields "choiceIndex"
  require choiceIndex.int?.isSome s!"{place}.choiceIndex" (.required .integer)
  let choiceText := (fields.get? "choiceText").getD (.text "")
  require choiceText.text?.isSome s!"{place}.choiceText" (.required .text)
  let nodeId ← readText s!"{place}.nodeId" (Value.field fields "nodeId")
  let timestamp ← readTimestamp s!"{place}.timestamp" (Value.field fields "timestamp")
  return ⟨nodeId, choiceIndex, choiceText, timestamp⟩

def isFiniteNumber (value : Value) : Except Fault Bool :=
  match value.number? with
  | some number => number.isFinite
  | none => .ok false

def readEffect (place : String) (fields : Table Value) : Outcome StatusEffect := do
  let value := (fields.get? "value").getD (.int 0)
  require (← Fault.lift (isFiniteNumber value)) s!"{place}.value" (.required .number)
  let duration := Value.field fields "duration"
  require (duration.isNull || duration.isCount) s!"{place}.duration" (.required .optionalDuration)
  let type ← readText s!"{place}.type" (Value.field fields "type")
  let source ← readOptionalText s!"{place}.source" (Value.field fields "source")
  return ⟨type, value, duration, source⟩

/-- The fields of a state in a document, before validation. -/
def readFields (fields : Table Value) : Outcome GameState := do
  let found := (fields.get? "version").getD (.int version)
  requireOf (found.equals (.int version)) [found] "version" (.version found)
  let player := (fields.get? "playerId").getD (Value.field fields "userId")
  return {
    playerId := ← readText "playerId" player
    storyId := ← readText "storyId" (Value.field fields "storyId")
    saveId := ← readText "saveId" (Value.field fields "saveId")
    currentNodeId := ← readText "currentNodeId" (Value.field fields "currentNodeId")
    visitedNodes := ← readVisited (Value.field fields "visitedNodes")
    choicesHistory := ←
      readEntries "choicesHistory" readRecord (Value.field fields "choicesHistory")
    stats := ← readTable "stats" (Value.field fields "stats")
    wallets := ← readTable "wallets" (Value.field fields "wallets")
    inventory := ← readTable "inventory" (Value.field fields "inventory")
    flags := ← readFlags "flags" (Value.field fields "flags")
    statusEffects := ← readEntries "statusEffects" readEffect (Value.field fields "statusEffects")
    createdAt := ← readTimestamp "createdAt" (Value.field fields "createdAt")
    updatedAt := ← readTimestamp "updatedAt" (Value.field fields "updatedAt")
    seed := ← readOptionalText "seed" (Value.field fields "seed") }

def restore (document : Value) : Outcome GameState :=
  match document.fields? with
  | none => invalid "snapshot" (.required .jsonObject)
  | some fields => do
    let state ← readFields fields
    state.validate
    return state

end Snapshot
end Gamebook
