import Gamebook.Play.Transition
import Gamebook.Proofs.Effect.Change

/-!
Everything that taking a choice does, whatever is rolled on the way: the choice is one that the
current node offers, its target is a node, some of its effects change a copy of the state, and then
the choice is recorded, the position moves and the status effects lose a turn.
-/
namespace Gamebook

/-- The visited nodes once a node was entered. -/
def withVisit (visits : List Value) (node : Value) : List Value :=
  if node.isAmong visits then visits else visits ++ [node]

/-- A changed state once a choice is recorded and its target entered. -/
def GameState.arrived (now : Timestamp) (history : List ChoiceRecord) (visits : List Value)
    (lasting : List StatusEffect) (target : String) (changed : GameState) : GameState :=
  { changed with
    currentNodeId := .text target
    visitedNodes := .known (withVisit visits (.text target))
    choicesHistory := .known (history.map .known)
    statusEffects := .known (lasting.map .known)
    updatedAt := .known now }

/-- What a state has in common with those that choices lead to. -/
structure GameState.SameGame (state other : GameState) : Prop where
  story : state.storyId = other.storyId
  save : state.saveId = other.saveId
  seed : state.seed = other.seed

/-- The entry of the log that taking a choice adds. -/
def StoryNode.record (node : StoryNode) (now : Timestamp) (place : Nat) (choice : StoryChoice) :
    ChoiceRecord :=
  ⟨.text node.id, .int place, .text choice.text, .known now⟩

/-- A choice taken at an index. -/
inductive Navigator.Taken [Host] (navigator : Navigator) (now : Timestamp) (state : GameState)
    (index : Value) : Transition → Prop
  | intro (node target : StoryNode) (place : Nat) (choice : StoryChoice) (copy changed : GameState)
      (applied : List EffectDef) (history : List ChoiceRecord) (visits : List Value)
      (entries : List (Loose StatusEffect)) (lasting : List StatusEffect)
      (rolls : List RollResult)
      (here : navigator.currentNode state = .ok node)
      (goesOn : node.isTerminal = false)
      (named : index = .int place)
      (chosen : node.choices[place]? = some choice)
      (leads : navigator.node (.text choice.target) = .ok target)
      (copied : state.copy = .ok copy)
      (changes : Effect.Changes copy applied changed)
      (offered : applied.Sublist choice.effects)
      (logged : state.choicesHistory.entries = .ok history)
      (visited : state.visitedNodes.items id = .ok visits)
      (held : changed.statusEffects.items .other = .ok entries)
      (ticked : StatusEffect.tickAll entries = .ok lasting) :
      Taken navigator now state index
        ⟨node.id, target.id, applied,
          changed.arrived now (history ++ [node.record now place choice]) visits lasting target.id,
          rolls⟩

namespace GameState

/-- A copy is the state itself with every list and table made sure of. -/
theorem copy_eq_ok [Host] {state copy : GameState} (ok : state.copy = .ok copy) :
    ∃ visits history stats wallets inventory effects,
      state.visitedNodes.items id = .ok visits ∧ state.choicesHistory.entries = .ok history ∧
      state.stats.dict = .ok stats ∧ state.wallets.dict = .ok wallets ∧
      state.inventory.dict = .ok inventory ∧ state.flags.copied Host.cloning = .ok state.flags ∧
      state.statusEffects.entries = .ok effects ∧
      copy = { state with
        visitedNodes := .known visits
        choicesHistory := .known (history.map .known)
        stats := .known stats
        wallets := .known wallets
        inventory := .known inventory
        statusEffects := .known (effects.map .known) } := by
  obtain ⟨visits, visited, rest⟩ := bind_eq_ok.mp ok
  obtain ⟨history, logged, rest⟩ := bind_eq_ok.mp rest
  obtain ⟨stats, statsRead, rest⟩ := bind_eq_ok.mp rest
  obtain ⟨wallets, walletsRead, rest⟩ := bind_eq_ok.mp rest
  obtain ⟨inventory, inventoryRead, rest⟩ := bind_eq_ok.mp rest
  obtain ⟨flags, flagsRead, rest⟩ := bind_eq_ok.mp rest
  obtain ⟨effects, effectsRead, rest⟩ := bind_eq_ok.mp rest
  obtain rfl := pure_eq_ok.mp rest
  obtain ⟨rfl, _⟩ := Loose.copied_eq_ok flagsRead
  exact ⟨visits, history, stats, wallets, inventory, effects, visited, logged, statsRead,
    walletsRead, inventoryRead, flagsRead, effectsRead, rfl⟩

end GameState

namespace Effect

/-- No effect touches the position, the visited nodes, the log or who plays what. -/
theorem Changes.frame {state final : GameState} {effects : List EffectDef}
    (changes : Changes state effects final) :
    final.playerId = state.playerId ∧ final.storyId = state.storyId ∧ final.saveId = state.saveId ∧
      final.currentNodeId = state.currentNodeId ∧ final.visitedNodes = state.visitedNodes ∧
      final.choicesHistory = state.choicesHistory ∧ final.createdAt = state.createdAt ∧
      final.updatedAt = state.updatedAt ∧ final.seed = state.seed := by
  induction changes with
  | done => simp
  | more first rest ih => cases first <;> exact ih

end Effect

namespace Navigator
variable {navigator : Navigator} {now : Timestamp} {state : GameState} {index : Value}

theorem Taken.sameGame [Host] {transition : Transition}
    (taken : navigator.Taken now state index transition) : transition.state.SameGame state := by
  cases taken with
  | intro node target place choice copy changed applied history visits entries lasting rolls here
      goesOn named chosen leads copied changes offered logged visited held ticked =>
    obtain ⟨_, _, _, _, _, _, _, _, _, _, _, _, _, rfl⟩ := GameState.copy_eq_ok copied
    obtain ⟨_, story, save, _, _, _, _, _, seed⟩ := changes.frame
    exact { story, save, seed }

theorem node_text_eq_ok {name : String} {node : StoryNode} :
    navigator.node (.text name) = .ok node ↔ navigator.stories.node? name = some node := by
  simp only [Navigator.node, Value.isKey, Value.text?, Option.bind_some, if_true]
  cases navigator.stories.node? name <;> simp

theorem node_text_eq_error {name : String} {failure : Failure} :
    navigator.node (.text name) = .error failure ↔
      navigator.stories.node? name = none ∧ failure = .notFound .node (.text name) := by
  simp only [Navigator.node, Value.isKey, Value.text?, Option.bind_some, if_true]
  cases navigator.stories.node? name <;> simp [eq_comm]

theorem refuseIndex_ne_ok {node : StoryNode} {count : Nat} {selection : Selection} :
    refuseIndex node index count ≠ .ok selection := Failure.showing_ne_ok

theorem choiceAt_cases (node : StoryNode) (index : Value) :
    (∃ selection, choiceAt node index = .ok selection) ∨
      ∃ count, choiceAt node index = refuseIndex node index count := by
  unfold choiceAt
  split
  · split
    · exact .inr ⟨_, rfl⟩
    · split
      · exact .inr ⟨_, rfl⟩
      · split
        · exact .inl ⟨_, rfl⟩
        · exact .inr ⟨_, rfl⟩
  · exact .inr ⟨_, rfl⟩

theorem choiceAt_eq_ok {node : StoryNode} {selection : Selection}
    (ok : choiceAt node index = .ok selection) :
    node.isTerminal = false ∧ selection.node = node ∧ index = .int selection.index ∧
      node.choices[selection.index]? = some selection.choice := by
  unfold choiceAt at ok
  split at ok
  · rename_i place
    split at ok
    · exact absurd ok refuseIndex_ne_ok
    · rename_i goesOn
      split at ok
      · exact absurd ok refuseIndex_ne_ok
      · rename_i bound
        split at ok
        · rename_i choice chosen
          cases ok
          refine ⟨by simpa using goesOn, rfl, ?_, chosen⟩
          exact congrArg Value.int (by dsimp only; omega)
        · exact absurd ok refuseIndex_ne_ok
  · exact absurd ok refuseIndex_ne_ok

theorem gate_eq_ok {selection : Selection} (ok : navigator.gate state index = .ok selection) :
    ∃ node, navigator.currentNode state = .ok node ∧ choiceAt node index = .ok selection := by
  obtain ⟨chosen, selected, rest⟩ := bind_eq_ok.mp ok
  obtain ⟨availability, _, rest⟩ := bind_eq_ok.mp rest
  split at rest
  · obtain rfl := pure_eq_ok.mp rest
    exact bind_eq_ok.mp selected
  · cases rest

theorem recordChoice_eq_ok {changed logged : GameState} {history : List ChoiceRecord}
    {nodeId choiceIndex choiceText : Value}
    (log : changed.choicesHistory = .known (history.map .known))
    (ok : changed.recordChoice now nodeId choiceIndex choiceText = .ok logged) :
    logged = { changed with
      choicesHistory := .known (history.map .known ++
        [.known ⟨nodeId, choiceIndex, choiceText, .known now⟩])
      updatedAt := .known now } := by
  obtain ⟨list, listed, rest⟩ := bind_eq_ok.mp ok
  obtain rfl := Loose.known.inj (log.symm.trans (Loose.get_eq_ok.mp listed))
  exact (pure_eq_ok.mp rest).symm

theorem moveTo_eq_ok {logged moved : GameState} {visits : List Value} {target : Value}
    (visited : logged.visitedNodes = .known visits) (ok : logged.moveTo now target = .ok moved) :
    moved = { logged with
      currentNodeId := target
      visitedNodes := .known (withVisit visits target)
      updatedAt := .known now } := by
  simp only [GameState.moveTo, GameState.placeAt, GameState.noteVisit, GameState.hasVisited,
    visited] at ok
  obtain ⟨known, seen, rest⟩ := bind_eq_ok.mp ok
  cases seen
  unfold withVisit
  split at rest
  · rename_i among
    obtain rfl := pure_eq_ok.mp rest
    simp [GameState.touch, among]
  · rename_i among
    obtain ⟨list, held, rest⟩ := bind_eq_ok.mp rest
    cases held
    obtain rfl := pure_eq_ok.mp rest
    simp [GameState.touch, among]

theorem advance_runs [Host] {selection : Selection} {target : StoryNode} {applied : List EffectDef}
    {next : GameState} (ok : advance now selection target state = .ok (applied, next)) :
    ∃ copy history visits entries lasting, state.copy = .ok copy ∧
      applied = (Effect.run copy selection.choice.effects).applied ∧
      state.choicesHistory.entries = .ok history ∧ state.visitedNodes.items id = .ok visits ∧
      (Effect.run copy selection.choice.effects).state.statusEffects.items .other = .ok entries ∧
      StatusEffect.tickAll entries = .ok lasting ∧
      next = (Effect.run copy selection.choice.effects).state.arrived now
        (history ++ [selection.node.record now selection.index selection.choice]) visits lasting
        target.id := by
  obtain ⟨copy, copied, rest⟩ := bind_eq_ok.mp ok
  have copied := Fault.lift_eq_ok.mp copied
  obtain ⟨visits, history, _, _, _, _, visited, logged, _, _, _, _, _, copyIs⟩ :=
    GameState.copy_eq_ok copied
  dsimp only at rest
  split at rest
  · cases rest
  · rename_i unbroken
    obtain ⟨recorded, recording, rest⟩ := bind_eq_ok.mp rest
    obtain ⟨moved, moving, rest⟩ := bind_eq_ok.mp rest
    obtain ⟨final, ticking, rest⟩ := bind_eq_ok.mp rest
    obtain ⟨rfl, rfl⟩ := Prod.mk.inj (pure_eq_ok.mp rest)
    let changed := (Effect.run copy selection.choice.effects).state
    obtain ⟨_, _, _, _, sameVisits, sameLog, _⟩ :=
      (Effect.run_changes copy selection.choice.effects).frame
    obtain ⟨stamp, stamped, appliedIs⟩ := Effect.applyAll_state now selection.choice.effects copy
    have log : changed.choicesHistory = .known (history.map .known) := by
      rw [sameLog, copyIs]
    have visits' : changed.visitedNodes = .known visits := by
      rw [sameVisits, copyIs]
    obtain rfl := recordChoice_eq_ok (by rw [stamped]; exact log) (Fault.lift_eq_ok.mp recording)
    obtain rfl := moveTo_eq_ok (by dsimp only; rw [stamped]; exact visits')
      (Fault.lift_eq_ok.mp moving)
    obtain ⟨entries, held, rest⟩ := bind_eq_ok.mp (Fault.lift_eq_ok.mp ticking)
    obtain ⟨lasting, ticked, rest⟩ := bind_eq_ok.mp rest
    obtain rfl := pure_eq_ok.mp rest
    dsimp only at held
    rw [stamped] at held
    refine ⟨copy, history, visits, entries, lasting, copied, appliedIs, logged, visited, held,
      ticked, ?_⟩
    rw [stamped]
    simp [GameState.arrived, StoryNode.record]

theorem advance_eq_ok [Host] {selection : Selection} {target : StoryNode} {applied : List EffectDef}
    {next : GameState} (ok : advance now selection target state = .ok (applied, next)) :
    ∃ copy changed history visits entries lasting, state.copy = .ok copy ∧
      Effect.Changes copy applied changed ∧ applied.Sublist selection.choice.effects ∧
      state.choicesHistory.entries = .ok history ∧ state.visitedNodes.items id = .ok visits ∧
      changed.statusEffects.items .other = .ok entries ∧
      StatusEffect.tickAll entries = .ok lasting ∧
      next = changed.arrived now
        (history ++ [selection.node.record now selection.index selection.choice]) visits lasting
        target.id := by
  obtain ⟨copy, history, visits, entries, lasting, copied, rfl, logged, visited, held, ticked, rfl⟩ :=
    advance_runs ok
  exact ⟨copy, _, history, visits, entries, lasting, copied, Effect.run_changes copy _,
    Effect.run_applied copy _, logged, visited, held, ticked, rfl⟩

variable {σ : Type} {generator : Generator σ}

/-- The steps of a choice that is taken. Only its rolls draw. -/
theorem take_eq_ok [Host] {before after : σ} {transition : Transition} :
    navigator.take generator now state index before = .ok transition after ↔
      ∃ selection target rolls applied next, navigator.gate state index = .ok selection ∧
        navigator.node (.text selection.choice.target) = .ok target ∧
        generator.resolveAll state.stats selection.choice.rollRequirements before = .ok rolls after ∧
        advance now selection target state = .ok (applied, next) ∧
        transition = ⟨selection.node.id, target.id, applied, next, rolls⟩ := by
  constructor
  · intro ok
    obtain ⟨selection, _, selected, rest⟩ := draw_bind_eq_ok.mp ok
    obtain ⟨target, _, targeted, rest⟩ := draw_bind_eq_ok.mp rest
    obtain ⟨rolls, _, rolled, rest⟩ := draw_bind_eq_ok.mp rest
    obtain ⟨⟨applied, next⟩, _, reached, rest⟩ := draw_bind_eq_ok.mp rest
    obtain ⟨rfl, rfl⟩ := draw_pure_eq_ok.mp rest
    obtain ⟨gated, rfl⟩ := draw_lift_eq_ok.mp selected
    obtain ⟨leads, rfl⟩ := draw_lift_eq_ok.mp targeted
    obtain ⟨advanced, rfl⟩ := draw_lift_eq_ok.mp reached
    exact ⟨selection, target, rolls, applied, next, gated, leads, rolled, advanced, rfl⟩
  · rintro ⟨selection, target, rolls, applied, next, gated, leads, rolled, advanced, rfl⟩
    refine draw_bind_eq_ok.mpr ⟨selection, before, draw_lift_eq_ok.mpr ⟨gated, rfl⟩, ?_⟩
    refine draw_bind_eq_ok.mpr ⟨target, before, draw_lift_eq_ok.mpr ⟨leads, rfl⟩, ?_⟩
    refine draw_bind_eq_ok.mpr ⟨rolls, after, rolled, ?_⟩
    exact draw_bind_eq_ok.mpr ⟨(applied, next), after, draw_lift_eq_ok.mpr ⟨advanced, rfl⟩, rfl⟩

theorem take_taken [Host] {before after : σ} {transition : Transition}
    (ok : navigator.take generator now state index before = .ok transition after) :
    navigator.Taken now state index transition := by
  obtain ⟨selection, target, rolls, applied, next, gated, leads, _, advanced, rfl⟩ := take_eq_ok.mp ok
  obtain ⟨node, here, chosen⟩ := gate_eq_ok gated
  obtain ⟨goesOn, rfl, named, offered⟩ := choiceAt_eq_ok chosen
  obtain ⟨copy, changed, history, visits, entries, lasting, copied, changes, within, logged,
    visited, held, ticked, rfl⟩ := advance_eq_ok advanced
  exact .intro _ target _ _ copy changed applied history visits entries lasting rolls here goesOn
    named offered leads copied changes within logged visited held ticked

theorem takeSeeded_takes [Host] {seed : Seed} {transition : Transition}
    (ok : navigator.takeSeeded seed now state index = .ok transition) :
    ∃ after, navigator.take RandomSource.generator now state index (.ofSeed seed) =
      .ok transition after := by
  unfold takeSeeded at ok
  split at ok
  · rename_i after taken
    cases ok
    exact ⟨after, taken⟩
  · cases ok

/-- Whichever generator a call draws from, it takes a choice. -/
theorem makeChoice_takes [Host] {before after : σ} {transition : Transition}
    (ok : navigator.makeChoice generator now state index before = .ok transition after) :
    ∃ (τ : Type) (source : Generator τ) (drawn left : τ),
      navigator.take source now state index drawn = .ok transition left := by
  obtain ⟨seed, _, _, rest⟩ := draw_bind_eq_ok.mp ok
  split at rest
  · obtain ⟨left, taken⟩ := takeSeeded_takes (draw_lift_eq_ok.mp rest).1
    exact ⟨_, _, _, left, taken⟩
  · exact ⟨_, _, _, _, rest⟩

theorem makeChoice_taken [Host] {before after : σ} {transition : Transition}
    (ok : navigator.makeChoice generator now state index before = .ok transition after) :
    navigator.Taken now state index transition := by
  obtain ⟨_, source, _, _, taken⟩ := makeChoice_takes ok
  exact take_taken taken

end Navigator
end Gamebook
