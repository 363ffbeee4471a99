import Gamebook.Proofs.Play.Taking

/-!
No rule of the game looks at a time. A state whose times are all made the same goes the way of the
state itself: it passes the same gates, takes the same effects and fails with the same errors.
-/
namespace Gamebook

theorem map_bind {ε α β γ : Type} (first : Except ε α) (next : α → Except ε β) (change : β → γ) :
    (first >>= next).map change = first >>= fun value => (next value).map change := by
  cases first <;> rfl

theorem bind_map {ε α β γ : Type} (first : Except ε α) (change : α → β) (next : β → Except ε γ) :
    first.map change >>= next = first >>= fun value => next (change value) := by
  cases first <;> rfl

theorem lift_map {α β : Type} (computation : Except Fault α) (change : α → β) :
    Fault.lift (computation.map change) = (Fault.lift computation).map change := by
  cases computation <;> rfl

/-- A time in the place of all times. -/
def Timestamp.blank : Timestamp := ⟨⟨1970, 1, 1⟩, ⟨0, 0, 0, 0⟩, some 0⟩

def ChoiceRecord.timeless (record : ChoiceRecord) : ChoiceRecord :=
  { record with timestamp := .known .blank }

namespace Loose

def map {α β : Type} (change : α → β) : Loose α → Loose β
  | .known entry => .known (change entry)
  | .other value => .other value

theorem entries_map {α β : Type} (change : α → β) (list : Loose (List (Loose α))) :
    (list.map (·.map (Loose.map change))).entries = list.entries.map (·.map change) := by
  have known (entries : List (Loose α)) : (entries.map (Loose.map change)).mapM get =
      ((entries.mapM get).map (·.map change) : Except Fault (List β)) := by
    induction entries with
    | nil => rfl
    | cons entry entries ih =>
      rw [List.map_cons, List.mapM_cons, List.mapM_cons, ih]
      cases entry with
      | other value => rfl
      | known value => cases entries.mapM get <;> rfl
  cases list with
  | known entries => exact known entries
  | other value =>
    simp only [map, entries, items, map_bind]
    cases value.elements with
    | error fault => rfl
    | ok elements => cases elements <;> rfl

theorem size_map {α β : Type} (change : α → β) (list : Loose (List α)) :
    (list.map (·.map change)).size = list.size := by
  cases list with
  | known entries => exact congrArg Except.ok (List.length_map change)
  | other value => rfl

end Loose

/-- The state with one time for all. -/
def GameState.timeless (state : GameState) : GameState := { state with
  choicesHistory := state.choicesHistory.map (·.map (Loose.map ChoiceRecord.timeless))
  createdAt := .known .blank
  updatedAt := .known .blank }

namespace GameState
variable (state : GameState)

theorem choiceCount_timeless : state.timeless.choiceCount = state.choiceCount :=
  Loose.size_map _ state.choicesHistory

theorem copy_timeless [Host] : state.timeless.copy = state.copy.map timeless := by
  simp only [copy, timeless, map_bind, Loose.entries_map]
  cases state.visitedNodes.items id with
  | error fault => rfl
  | ok visits =>
    cases state.choicesHistory.entries with
    | error fault => rfl
    | ok history =>
      have logged : (history.map ChoiceRecord.timeless).map Loose.known =
          (history.map Loose.known).map (Loose.map ChoiceRecord.timeless) := by
        rw [List.map_map, List.map_map]
        rfl
      simp only [bind, Except.bind, Except.map, logged]
      rfl

theorem recordChoice_timeless (now : Timestamp) (nodeId choiceIndex choiceText : Value) :
    state.timeless.recordChoice .blank nodeId choiceIndex choiceText =
      (state.recordChoice now nodeId choiceIndex choiceText).map timeless := by
  obtain ⟨player, story, save, node, visits, history⟩ := state
  cases history with
  | known history => simp [recordChoice, timeless, Loose.map, Loose.get, touch, bind, Except.bind,
      Except.map, pure, Except.pure, ChoiceRecord.timeless]
  | other value => rfl

theorem moveTo_timeless (now : Timestamp) (nodeId : Value) :
    state.timeless.moveTo .blank nodeId = (state.moveTo now nodeId).map timeless := by
  simp only [moveTo, noteVisit, map_bind]
  have seen : (state.timeless.placeAt nodeId).hasVisited (state.timeless.placeAt nodeId).currentNodeId =
      (state.placeAt nodeId).hasVisited (state.placeAt nodeId).currentNodeId := rfl
  rw [seen]
  cases (state.placeAt nodeId).hasVisited (state.placeAt nodeId).currentNodeId with
  | error fault => rfl
  | ok known =>
    cases known with
    | true => rfl
    | false =>
      show (state.visitedNodes.get >>= _) = ((state.visitedNodes.get >>= _) : Except _ _).map _
      rw [map_bind]
      rfl

end GameState

namespace Effect
variable (effect : EffectDef) (state : GameState)

theorem statusOutcome_timeless :
    statusOutcome effect state.timeless = (statusOutcome effect state).map GameState.timeless := by
  unfold statusOutcome
  split
  · simp only [map_bind]
    rfl
  · simp only [map_bind]
    rfl
  · simp only [map_bind]
    rfl
  · rfl

theorem targetOutcome_timeless (target : Target) : targetOutcome target effect state.timeless =
    (targetOutcome target effect state).map GameState.timeless := by
  cases target with
  | wallet =>
    simp only [targetOutcome, walletOutcome, map_bind]
    rfl
  | inventory =>
    simp only [targetOutcome, inventoryOutcome, map_bind]
    rfl
  | stat =>
    simp only [targetOutcome, statOutcome, map_bind]
    rfl
  | flag =>
    simp only [targetOutcome, flagOutcome, map_bind]
    rfl
  | status => exact statusOutcome_timeless effect state

theorem outcome_timeless :
    outcome effect state.timeless = (outcome effect state).map (·.map GameState.timeless) := by
  have one (made : Outcome GameState) : (made.map GameState.timeless >>= fun next => pure (some next)) =
      Except.map (·.map GameState.timeless) (made >>= fun next => (pure (some next) : Outcome _)) := by
    cases made <;> rfl
  unfold outcome
  split
  · rw [targetOutcome_timeless, one]
  · rfl

theorem run_timeless (effects : List EffectDef) :
    run state.timeless effects =
      { run state effects with state := (run state effects).state.timeless } := by
  induction effects generalizing state with
  | nil => rfl
  | cons effect effects ih =>
    rw [run, run, perform_eq_outcome, perform_eq_outcome, outcome_timeless]
    rcases outcome effect state with failure | _ | next
    · cases failure with
      | fault fault => rfl
      | _ => exact ih state
    · exact ih state
    · simp only [Except.map, Option.map_some, ih next]

theorem applyAll_timeless (now : Timestamp) (effects : List EffectDef) :
    applyAll .blank effects state.timeless = { applyAll now effects state with
      state := (applyAll now effects state).state.timeless } := by
  unfold applyAll
  simp only [run_timeless]
  split <;> rfl

theorem passTurn_timeless : passTurn state.timeless = (passTurn state).map GameState.timeless := by
  simp only [passTurn, map_bind]
  rfl

end Effect

theorem Condition.Context.ofState_timeless (state : GameState) :
    ofState state.timeless = ofState state := by
  unfold ofState
  rw [state.choiceCount_timeless]
  rfl

namespace Navigator
variable (navigator : Navigator) (state : GameState)

theorem gate_timeless (index : Value) :
    navigator.gate state.timeless index = navigator.gate state index := by
  unfold gate availability Condition.availability
  rw [Condition.Context.ofState_timeless]
  rfl

theorem nextSeed?_timeless : nextSeed? state.timeless = nextSeed? state := by
  unfold nextSeed?
  rw [state.choiceCount_timeless]
  rfl

theorem advance_timeless [Host] (now : Timestamp) (selection : Selection) (target : StoryNode) :
    advance .blank selection target state.timeless =
      (advance now selection target state).map fun (applied, next) => (applied, next.timeless) := by
  unfold advance
  rw [state.copy_timeless, lift_map, bind_map, map_bind]
  refine bind_congr fun copy => ?_
  simp only [Effect.applyAll_timeless copy now]
  cases (Effect.applyAll now selection.choice.effects copy).broken with
  | some fault => rfl
  | none =>
    simp only [map_bind, GameState.recordChoice_timeless _ now, lift_map, bind_map,
      GameState.moveTo_timeless _ now, Effect.passTurn_timeless]
    rfl

end Navigator
end Gamebook
