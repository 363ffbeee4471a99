import Gamebook.Proofs.Play.Taking
import Gamebook.Story.Lighthouse

/-!
Playing on and on: choices are taken one after the other, a refused one leaves the state as it was,
and one that was taken goes on from the state it led to.
-/
namespace Gamebook

/-- A call for a choice: what the clock says, and the index. -/
structure Call where
  now : Timestamp
  index : Value

structure Playthrough (σ : Type) where
  state : GameState
  dice : σ
  /-- What the calls gave, the first one first. -/
  answers : List (Outcome Transition)

/-- A state before anything was called for. -/
def Playthrough.opening {σ : Type} (state : GameState) (dice : σ) : Playthrough σ :=
  ⟨state, dice, []⟩

/-- The transitions of the successful calls. -/
def Playthrough.taken {σ : Type} (game : Playthrough σ) : List Transition :=
  game.answers.filterMap Except.toOption

/-- A state of a new game, with or without stats written over the usual ones. -/
inductive GameState.Fresh (story start : Value) : GameState → Prop
  | usual (now : Timestamp) (player save seed : Value) :
      Fresh story start (.create now player story start save seed)
  | written (now : Timestamp) (player save seed stats : Value) (state : GameState)
      (ok : (GameState.create now player story start save seed).withStats stats = .ok state) :
      Fresh story start state

/-- Only the stats of a new game can be other than usual. -/
theorem GameState.Fresh.fields {story start : Value} {state : GameState}
    (fresh : state.Fresh story start) : state.storyId = story ∧ state.currentNodeId = start ∧
      state.visitedNodes = .known [start] ∧ state.choicesHistory = .known [] ∧
      (∃ stats, state.stats = .known stats) ∧ state.wallets = .known [] ∧
      state.inventory = .known [] ∧ state.flags = .known [] ∧ state.statusEffects = .known [] := by
  cases fresh with
  | usual => exact ⟨rfl, rfl, rfl, rfl, ⟨_, rfl⟩, rfl, rfl, rfl, rfl⟩
  | written now player save seed stats state ok =>
    obtain ⟨_, _, rest⟩ := bind_eq_ok.mp ok
    obtain ⟨_, _, rest⟩ := bind_eq_ok.mp rest
    obtain rfl := pure_eq_ok.mp rest
    exact ⟨rfl, rfl, rfl, rfl, ⟨_, rfl⟩, rfl, rfl, rfl, rfl⟩

namespace Navigator
variable {σ : Type} (navigator : Navigator) (generator : Generator σ)

def call [Host] (game : Playthrough σ) (call : Call) : Playthrough σ :=
  match navigator.makeChoice generator call.now game.state call.index game.dice with
  | .ok transition dice => ⟨transition.state, dice, game.answers ++ [.ok transition]⟩
  | .error failure dice => ⟨game.state, dice, game.answers ++ [.error failure]⟩

def play [Host] (game : Playthrough σ) (calls : List Call) : Playthrough σ :=
  calls.foldl (navigator.call generator) game

variable {navigator generator}

theorem play_concat [Host] (game : Playthrough σ) (calls : List Call) (last : Call) :
    navigator.play generator game (calls ++ [last]) =
      navigator.call generator (navigator.play generator game calls) last := List.foldl_append

/-- What holds of an opening, and what every call keeps, holds of every game. -/
theorem call_induction [Host] (kept : Playthrough σ → Prop) {game : Playthrough σ} (calls : List Call)
    (refused : ∀ game (call : Call) failure dice, kept game →
      navigator.makeChoice generator call.now game.state call.index game.dice = .error failure dice →
      kept ⟨game.state, dice, game.answers ++ [.error failure]⟩)
    (made : ∀ game (call : Call) transition dice, kept game →
      navigator.makeChoice generator call.now game.state call.index game.dice = .ok transition dice →
      kept ⟨transition.state, dice, game.answers ++ [.ok transition]⟩)
    (opening : kept game) : kept (navigator.play generator game calls) := by
  induction calls generalizing game with
  | nil => exact opening
  | cons first calls ih =>
    refine ih ?_
    unfold call
    split
    · rename_i transition dice answered
      exact made game first transition dice opening answered
    · rename_i failure dice answered
      exact refused game first failure dice opening answered

/-- What holds of an opening, and what refused and taken choices keep, holds of every game. -/
theorem play_induction [Host] (kept : Playthrough σ → Prop) {game : Playthrough σ} (calls : List Call)
    (refused : ∀ game (call : Call) failure dice, kept game →
      navigator.makeChoice generator call.now game.state call.index game.dice = .error failure dice →
      kept ⟨game.state, dice, game.answers ++ [.error failure]⟩)
    (taken : ∀ game (call : Call) transition dice, kept game →
      navigator.Taken call.now game.state call.index transition →
      kept ⟨transition.state, dice, game.answers ++ [.ok transition]⟩)
    (opening : kept game) : kept (navigator.play generator game calls) := by
  refine call_induction kept calls refused (fun game call transition dice holds made => ?_) opening
  exact taken game call transition dice holds (makeChoice_taken made)

end Navigator

namespace Playthrough
variable {σ : Type} {game : Playthrough σ} {state : GameState} {dice : σ}

@[simp] theorem taken_opening : (opening state dice).taken = [] := rfl

@[simp] theorem taken_refused {failure : Failure} :
    (Playthrough.mk state dice (game.answers ++ [.error failure])).taken = game.taken := by
  simp [taken, Except.toOption]

@[simp] theorem taken_taken {transition : Transition} :
    (Playthrough.mk state dice (game.answers ++ [.ok transition])).taken =
      game.taken ++ [transition] := by
  simp [taken, Except.toOption]

end Playthrough

namespace Story.Lighthouse

def morning : Timestamp := ⟨⟨2024, 5, 1⟩, ⟨8, 0, 0, 0⟩, some 0⟩

def opening : GameState :=
  .create morning (.text "keeper") (.text story.id) (.text story.start) (.text "first") .null

def navigator : Navigator := ⟨Library.bundled.source, []⟩

end Story.Lighthouse
end Gamebook
