import Gamebook.Failure
import Gamebook.State.Basic

/-!
The invariants of a game state, checked in a fixed order; the first that is violated is reported.
-/
namespace Gamebook

def invalid {α : Type} (field : String) (problem : StateProblem) : Outcome α :=
  .error (.state field problem)

def require (holds : Bool) (field : String) (problem : StateProblem) : Outcome Unit :=
  if holds then .ok () else invalid field problem

def requireOf (holds : Bool) (shown : List Value) (field : String) (problem : StateProblem) :
    Outcome Unit :=
  if holds then .ok ()
  else if shown.all Value.isWritable then invalid field problem
  else .error (.fault .badValue)

namespace Value

def isFilledText (value : Value) : Bool := value.text?.any (· != "")

/-- Whether a value is a finite number and, if so, at least `least`. -/
def isAtLeast (least : Int) (value : Value) : Except Fault Bool :=
  match value.number? with
  | some number => do return (← number.isFinite) && (Number.int least).le number
  | none => .ok false

def isCount (value : Value) : Bool := value.int?.any (0 ≤ ·)

end Value

namespace GameState

def checkIdentity (state : GameState) : Outcome Unit := do
  require state.playerId.isFilledText "player_id" .textMissing
  require state.storyId.isFilledText "story_id" .textMissing
  require state.saveId.isFilledText "save_id" .textMissing
  require state.currentNodeId.isFilledText "current_node_id" .textMissing

/-- The list or table in a field, which has to be one. -/
def wellShaped {α : Type} (field : String) (shape : Requirement) : Loose α → Outcome α
  | .known entry => .ok entry
  | .other _ => invalid field (.required shape)

def checkTable (field : String) (least : Int) (problem : Value → StateProblem) :
    Dict → Outcome Unit
  | [] => .ok ()
  | (key, value) :: table => do
    let holds ← Fault.lift (value.isAtLeast least)
    requireOf holds [key, value] s!"{field}.{key.asText}" (problem value)
    checkTable field least problem table

def checkEffects (index : Nat) : List (Loose StatusEffect) → Outcome Unit
  | [] => .ok ()
  | entry :: entries => do
    match entry with
    | .other _ => invalid s!"status_effects[{index}]" (.required .statusEffect)
    | .known effect =>
      require effect.type.isFilledText s!"status_effects[{index}]" (.required .statusEffect)
      require (effect.duration.isNull || effect.duration.isCount)
        s!"status_effects[{index}].duration" (.required .duration)
      checkEffects (index + 1) entries

def checkHistory (index : Nat) : List (Loose ChoiceRecord) → Outcome Unit
  | [] => .ok ()
  | .other _ :: _ => invalid s!"choices_history[{index}]" (.required .choiceRecord)
  | .known _ :: entries => checkHistory (index + 1) entries

def checkTimestamp (field : String) : Loose Timestamp → Outcome Unit
  | .known _ => .ok ()
  | .other _ => invalid field .timestamp

def checkContents (state : GameState) : Outcome Unit := do
  let visits ← wellShaped "visited_nodes" .list state.visitedNodes
  let history ← wellShaped "choices_history" .list state.choicesHistory
  let effects ← wellShaped "status_effects" .list state.statusEffects
  let stats ← wellShaped "stats" .mapping state.stats
  let wallets ← wellShaped "wallets" .mapping state.wallets
  let inventory ← wellShaped "inventory" .mapping state.inventory
  let _ ← wellShaped "flags" .mapping state.flags
  checkTable "stats" 1 .stat stats
  checkTable "wallets" 0 .balance wallets
  checkTable "inventory" 0 .quantity inventory
  checkEffects 0 effects
  checkHistory 0 history
  checkTimestamp "created_at" state.createdAt
  checkTimestamp "updated_at" state.updatedAt
  require (state.currentNodeId.isAmong visits) "visited_nodes"
    (.currentNotVisited state.currentNodeId)

def validate (state : GameState) : Outcome Unit := do
  state.checkIdentity
  state.checkContents

end GameState
end Gamebook
