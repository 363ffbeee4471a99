import Gamebook.Play.Progress
import Gamebook.Play.Transition
import Gamebook.Save.Store

/-!
Games that are kept as saves: started, resumed, advanced, listed and deleted. Every state is written
before it is shown, so a failure to show it leaves it written.
-/
namespace Gamebook
variable [Host]

structure World (σ : Type) where
  saves : SaveStore
  dice : σ

/-- A computation on the world; it may fail, and leaves a world either way. -/
abbrev Playing (σ : Type) := EStateM Failure (World σ)

structure GameView where
  saveId : Value
  storyId : Value
  node : StoryNode
  choices : List ChoiceView
  progress : Progress
  state : GameState

def GameView.isEnding (view : GameView) : Bool := view.node.isTerminal

structure SaveSummary where
  id : SaveId
  /-- The state, or why it cannot be loaded. -/
  state : Outcome GameState

def SaveSummary.isCorrupt (summary : SaveSummary) : Bool :=
  match summary.state with
  | .ok _ => false
  | .error _ => true

/-- Runs games by the stories of a source, which may turn out not to be readable. -/
structure GameMaster (σ : Type) where
  stories : Outcome StorySource
  predicates : Condition.Predicates
  generator : Generator σ

namespace Playing
variable {σ α : Type}

def outcome (result : Outcome α) : Playing σ α := liftExcept result

def draw (drawing : Drawing σ α) : Playing σ α := fun world =>
  match drawing world.dice with
  | .ok value dice => .ok value { world with dice := dice }
  | .error failure dice => .error failure { world with dice := dice }

def load (id : SaveId) : Playing σ GameState := do outcome ((← get).saves.load id)

/-- Writes a document to a save. What that left among the saves stays there if it fails. -/
def write (id : SaveId) (document : Value) (isSortable : Bool) : Playing σ Unit := fun world =>
  let stored := world.saves.write id document isSortable
  outcome stored.2 { world with saves := stored.1 }

/-- Writes a state under the save that it names itself. -/
def persist (state : GameState) : Playing σ Unit := do
  let document ← outcome (Fault.lift (Snapshot.ofState state))
  let id ← outcome (SaveId.ofValue state.saveId)
  write id (.object document) (Snapshot.isNamed state)

end Playing

namespace GameMaster
variable {σ : Type} (master : GameMaster σ)

def navigator : Outcome Navigator := do return ⟨← master.stories, master.predicates⟩

def view (state : GameState) : Outcome GameView := do
  let navigator ← master.navigator
  return {
    saveId := state.saveId
    storyId := state.storyId
    node := ← navigator.node state.currentNodeId
    choices := ← navigator.choices state
    progress := ← navigator.progress state
    state := state }

def startNode (story : Value) : Outcome Value := do
  match (← master.stories).startNode story with
  | .error (.noEntry _) => Failure.showing story (.notFound .story story)
  | outcome => outcome

def newState (now : Timestamp) (player story start save seed stats : Value) : Outcome GameState :=
  let state := GameState.create now player story start save seed
  if stats.isFilled then Fault.lift (state.withStats stats) else .ok state

/-- A new game at the start of a story. A save that is there is only replaced on demand. -/
def start (now : Timestamp) (player story save seed stats : Value) (overwrite : Bool) :
    Playing σ GameView := do
  let start ← Playing.outcome (master.startNode story)
  let id ← Playing.outcome (SaveId.ofValue save)
  let isTaken ← Playing.outcome ((← get).saves.contains id)
  if isTaken && !overwrite then throw (.saveExists id.text)
  let state ← Playing.outcome (newState now player story start save seed stats)
  Playing.outcome state.validate
  Playing.persist state
  Playing.outcome (master.view state)

def resume (save : Value) : Playing σ GameView := do
  let state ← Playing.load (← Playing.outcome (SaveId.ofValue save))
  Playing.outcome (master.view state)

def choose (now : Timestamp) (save index : Value) : Playing σ (Transition × GameView) := do
  let state ← Playing.load (← Playing.outcome (SaveId.ofValue save))
  let navigator ← Playing.outcome master.navigator
  let transition ← Playing.draw (navigator.makeChoice master.generator now state index)
  Playing.persist transition.state
  return (transition, ← Playing.outcome (master.view transition.state))

def progress (save : Value) : Playing σ Progress := do
  let state ← Playing.load (← Playing.outcome (SaveId.ofValue save))
  Playing.outcome do (← master.navigator).progress state

end GameMaster

namespace SaveStore

def matchesFilter (player story : Option Value) (state : GameState) : Bool :=
  player.all state.playerId.equals && story.all state.storyId.equals

def corruptSummary? (player story : Option Value) (id : SaveId) (failure : Failure) :
    Option SaveSummary :=
  if player.isNone && story.isNone then some ⟨id, .error failure⟩ else none

def summary? (store : SaveStore) (player story : Option Value) (id : SaveId) :
    Outcome (Option SaveSummary) :=
  match store.load id with
  | .ok state => .ok (if matchesFilter player story state then some ⟨id, .ok state⟩ else none)
  | .error (.save problem) => .ok (corruptSummary? player story id (.save problem))
  | .error (.notFound kind key) => .ok (corruptSummary? player story id (.notFound kind key))
  | .error failure => .error failure

def summaries (store : SaveStore) (player story : Option Value) : Outcome (List SaveSummary) := do
  return (← store.ids.mapM (store.summary? player story)).filterMap id

end SaveStore

def Playing.delete {σ : Type} (save : Value) : Playing σ Unit := do
  let id ← Playing.outcome (SaveId.ofValue save)
  match ← Playing.outcome ((← get).saves.delete id) with
  | some saves => modify fun world => { world with saves := saves }
  | none => throw (.notFound .save save)

end Gamebook
