import Gamebook.Proofs.Dice.Returning
import Gamebook.Proofs.Play.Run
import Gamebook.Proofs.Play.Timeless

/-!
The log of a game tells the game. What calls lead to is settled by the state and the indices: the
numbers that are drawn show in the rolls alone, and the clock shows in times alone. So two games
that differ in their dice and their clocks fail at the same calls with the same errors, and taking
the choices of the log again, with any dice, leads where they led.
-/
namespace Gamebook

def Transition.unrolled (transition : Transition) : Transition := { transition with rolls := [] }

/-- What is left of a transition without its rolls and times. -/
def Transition.told (transition : Transition) : Transition :=
  { transition with rolls := [], state := transition.state.timeless }

/-- The choices that a state remembers; none if its log cannot be gone through. -/
def GameState.log (state : GameState) : List ChoiceRecord :=
  match state.choicesHistory.entries with
  | .ok log => log
  | .error _ => []

namespace Navigator
variable {σ : Type} (navigator : Navigator)

/-- What taking a choice comes to, but for the rolls. -/
def foretell [Host] (now : Timestamp) (state : GameState) (index : Value) : Outcome Transition := do
  let selection ← navigator.gate state index
  let target ← navigator.node (.text selection.choice.target)
  selection.choice.rollRequirements.forM (·.verdict state.stats)
  let (applied, next) ← advance now selection target state
  return ⟨selection.node.id, target.id, applied, next, []⟩

/-- Seeds are worked out first, and decide nothing but the rolls. -/
def foretellChoice [Host] (now : Timestamp) (state : GameState) (index : Value) :
    Outcome Transition := do
  let _ ← Fault.lift (nextSeed? state)
  navigator.foretell now state index

theorem take_endsAs [Host] (generator : Generator σ) (now : Timestamp) (state : GameState)
    (index : Value) : generator.EndsAs Transition.unrolled (navigator.foretell now state index)
      (navigator.take generator now state index) := by
  refine Generator.endsAs_lift_bind fun selection => Generator.endsAs_lift_bind fun target => ?_
  refine Generator.endsAs_bind (Generator.resolveAll_endsAs state.stats _) fun rolls => ?_
  refine Generator.endsAs_lift_bind fun advanced => ?_
  exact Generator.endsAs_pure Transition.unrolled
    ⟨selection.node.id, target.id, advanced.1, advanced.2, rolls⟩

/-- Whatever is drawn, a call comes to what was foretold. -/
theorem makeChoice_endsAs [Host] (generator : Generator σ) (now : Timestamp) (state : GameState)
    (index : Value) :
    generator.EndsAs Transition.unrolled (navigator.foretellChoice now state index)
      (navigator.makeChoice generator now state index) := by
  refine Generator.endsAs_lift_bind fun seed? => ?_
  cases seed? with
  | none => exact navigator.take_endsAs generator now state index
  | some seed =>
    have seeded : (navigator.takeSeeded seed now state index).map Transition.unrolled =
        navigator.foretell now state index := by
      obtain ⟨after, _, ⟨transition, taken, same⟩ | ⟨failure, taken, same⟩⟩ :=
        navigator.take_endsAs RandomSource.generator now state index _
          (RandomSource.returns_ofSeed seed)
      · rw [takeSeeded, taken, same]
        rfl
      · rw [takeSeeded, taken, same]
        rfl
    intro dice returns
    refine ⟨dice, returns, ?_⟩
    rw [← seeded]
    dsimp only
    cases navigator.takeSeeded seed now state index with
    | ok transition => exact .inl ⟨transition, rfl, rfl⟩
    | error failure => exact .inr ⟨failure, rfl, rfl⟩

theorem foretell_timeless [Host] (now : Timestamp) (state : GameState) (index : Value) :
    navigator.foretellChoice .blank state.timeless index =
      (navigator.foretellChoice now state index).map Transition.told := by
  unfold foretellChoice foretell
  simp only [map_bind, nextSeed?_timeless, gate_timeless, advance_timeless _ now, bind_map]
  rfl

/-- A call comes to the same, told without rolls and times, for all states that differ in times. -/
theorem makeChoice_told [Host] {generator : Generator σ} {dice : σ} (returns : generator.Returns dice)
    (now : Timestamp) (state : GameState) (index : Value) :
    ∃ after, generator.Returns after ∧
      ((∃ transition, navigator.makeChoice generator now state index dice = .ok transition after ∧
          navigator.foretellChoice .blank state.timeless index = .ok transition.told) ∨
        ∃ failure, navigator.makeChoice generator now state index dice = .error failure after ∧
          navigator.foretellChoice .blank state.timeless index = .error failure) := by
  obtain ⟨after, alive, ended⟩ := navigator.makeChoice_endsAs generator now state index dice returns
  refine ⟨after, alive, ?_⟩
  rw [navigator.foretell_timeless now]
  rcases ended with ⟨transition, taken, foretold⟩ | ⟨failure, taken, foretold⟩
  · exact .inl ⟨transition, taken, by rw [foretold]; rfl⟩
  · exact .inr ⟨failure, taken, by rw [foretold]; rfl⟩

variable {navigator}

theorem Taken.log [Host] {now : Timestamp} {state : GameState} {index : Value}
    {transition : Transition} (taken : navigator.Taken now state index transition) :
    ∃ record, transition.state.log = state.log ++ [record] ∧ record.choiceIndex = index := by
  cases taken with
  | intro node target place choice copy changed applied history visits entries lasting rolls here
      goesOn named chosen leads copied changes offered logged visited held ticked =>
    refine ⟨node.record now place choice, ?_, named.symm⟩
    have before : state.log = history := by rw [GameState.log, logged]
    have after : (changed.arrived now (history ++ [node.record now place choice]) visits lasting
        target.id).log = history ++ [node.record now place choice] := by
      rw [GameState.log, GameState.arrived, Loose.entries_known]
    rw [before, after]

end Navigator

def Playthrough.told {σ : Type} (game : Playthrough σ) : List (Outcome Transition) :=
  game.answers.map (Except.map Transition.told)

/-- Two games that differ in their dice, their rolls and their times at most. -/
structure Playthrough.Alike {σ τ : Type} (game : Playthrough σ) (other : Playthrough τ) : Prop where
  state : game.state.timeless = other.state.timeless
  answers : game.told = other.told

namespace Navigator
variable {σ τ : Type} {navigator : Navigator} {generator : Generator σ} {other : Generator τ}

theorem call_taken [Host] {game : Playthrough σ} {call : Call} {transition : Transition} {after : σ}
    (taken : navigator.makeChoice generator call.now game.state call.index game.dice =
      .ok transition after) : navigator.call generator game call =
        ⟨transition.state, after, game.answers ++ [.ok transition]⟩ := by
  unfold Navigator.call
  rw [taken]

theorem call_refused [Host] {game : Playthrough σ} {call : Call} {failure : Failure} {after : σ}
    (refused : navigator.makeChoice generator call.now game.state call.index game.dice =
      .error failure after) : navigator.call generator game call =
        ⟨game.state, after, game.answers ++ [.error failure]⟩ := by
  unfold Navigator.call
  rw [refused]

/-- What one call does to a game, as far as it can be told before anything is drawn. -/
theorem call_told [Host] (navigator : Navigator) {game : Playthrough σ}
    (returns : generator.Returns game.dice) (call : Call) :
    generator.Returns (navigator.call generator game call).dice ∧
      (navigator.call generator game call).told =
        game.told ++ [navigator.foretellChoice .blank game.state.timeless call.index] ∧
      (navigator.call generator game call).state.timeless =
        match navigator.foretellChoice .blank game.state.timeless call.index with
        | .ok transition => transition.state
        | .error _ => game.state.timeless := by
  obtain ⟨after, alive, ⟨transition, taken, foretold⟩ | ⟨failure, taken, foretold⟩⟩ :=
    navigator.makeChoice_told returns call.now game.state call.index
  · rw [call_taken taken, foretold]
    exact ⟨alive, List.map_append, rfl⟩
  · rw [call_refused taken, foretold]
    exact ⟨alive, List.map_append, rfl⟩

theorem call_alike [Host] (navigator : Navigator) {game : Playthrough σ} {second : Playthrough τ}
    (alike : game.Alike second)
    (returns : generator.Returns game.dice) (otherReturns : other.Returns second.dice)
    {call otherCall : Call} (same : call.index = otherCall.index) :
    (navigator.call generator game call).Alike (navigator.call other second otherCall) := by
  obtain ⟨_, answered, reached⟩ := navigator.call_told returns call
  obtain ⟨_, otherAnswered, otherReached⟩ :=
    navigator.call_told otherReturns otherCall
  constructor
  · rw [reached, otherReached, alike.state, same]
  · rw [answered, otherAnswered, alike.answers, alike.state, same]

theorem play_alike [Host] (navigator : Navigator) {game : Playthrough σ} {second : Playthrough τ}
    (alike : game.Alike second)
    (returns : generator.Returns game.dice) (otherReturns : other.Returns second.dice)
    {calls otherCalls : List Call} (same : calls.map (·.index) = otherCalls.map (·.index)) :
    (navigator.play generator game calls).Alike (navigator.play other second otherCalls) := by
  induction calls generalizing game second otherCalls with
  | nil =>
    obtain rfl := List.map_eq_nil_iff.mp same.symm
    exact alike
  | cons call calls ih =>
    cases otherCalls with
    | nil => cases same
    | cons otherCall otherCalls =>
      obtain ⟨first, rest⟩ := List.cons.inj same
      exact ih (navigator.call_alike alike returns otherReturns first) (navigator.call_told returns call).1
        (navigator.call_told otherReturns otherCall).1 rest

/-- What playing on adds to the log is what it takes to come to the same state again. -/
theorem play_log [Host] (navigator : Navigator) (other : Generator τ) (game : Playthrough σ)
    (returns : generator.Returns game.dice) (calls : List Call) :
    ∃ log new, (navigator.play generator game calls).state.log = game.state.log ++ log ∧
      (navigator.play generator game calls).taken = game.taken ++ new ∧
      ∀ second : Playthrough τ, second.state.timeless = game.state.timeless →
        other.Returns second.dice → ∀ replays : List Call,
        replays.map (·.index) = log.map (·.choiceIndex) →
        (navigator.play other second replays).told =
            second.told ++ new.map (fun transition => .ok transition.told) ∧
          (navigator.play other second replays).state.timeless =
            (navigator.play generator game calls).state.timeless := by
  -- The replay may set out from any game in the same state, so that the rest can be replayed too.
  induction calls generalizing game with
  | nil =>
    refine ⟨[], [], (List.append_nil _).symm, (List.append_nil _).symm, ?_⟩
    intro second same _ replays named
    obtain rfl := List.map_eq_nil_iff.mp named
    exact ⟨(List.append_nil _).symm, same⟩
  | cons call calls ih =>
    have alive := (navigator.call_told returns call).1
    obtain ⟨log, new, logged, taken, again⟩ := ih _ alive
    obtain ⟨after, _, ⟨transition, chosen, foretold⟩ | ⟨failure, refused, _⟩⟩ :=
      navigator.makeChoice_told returns call.now game.state call.index
    · -- A choice that was taken is the first of the log, and taken again first.
      have called := call_taken chosen
      obtain ⟨record, grown, indexed⟩ := (makeChoice_taken chosen).log
      rw [called] at logged taken again
      rw [Playthrough.taken_taken] at taken
      refine ⟨record :: log, transition :: new, ?_, ?_, ?_⟩
      · rw [play, List.foldl_cons, called]
        refine logged.trans ?_
        rw [grown, List.append_assoc]
        rfl
      · rw [play, List.foldl_cons, called]
        refine taken.trans ?_
        rw [List.append_assoc]
        rfl
      · intro second same otherReturns replays named
        cases replays with
        | nil => cases named
        | cons replay replays =>
          obtain ⟨first, rest⟩ := List.cons.inj named
          obtain ⟨otherAlive, answered, reached⟩ :=
            navigator.call_told otherReturns replay
          have index : replay.index = call.index := first.trans indexed
          rw [same, index, foretold] at answered reached
          obtain ⟨told, final⟩ := again _ reached otherAlive replays rest
          rw [play, List.foldl_cons, play, List.foldl_cons, called]
          refine ⟨told.trans ?_, final⟩
          rw [answered, List.append_assoc]
          rfl
    · -- A call that was refused leaves no trace, and is not made again.
      have called := call_refused refused
      rw [called] at logged taken again
      rw [Playthrough.taken_refused] at taken
      rw [play, List.foldl_cons, called]
      exact ⟨log, new, logged, taken, again⟩

/-- Dice and clocks decide nothing but rolls and times, and the log of a game is complete. -/
theorem play_told [Host] {state : GameState} {dice : σ} {otherDice : τ}
    (returns : generator.Returns dice)
    (otherReturns : other.Returns otherDice) (calls : List Call) :
    let opening : Playthrough σ := .opening state dice
    let game := navigator.play generator opening calls
    (∀ otherCalls, calls.map (·.index) = otherCalls.map (·.index) →
      let second := navigator.play other (.opening state otherDice) otherCalls
      game.answers.map (Except.map Transition.told) =
          second.answers.map (Except.map Transition.told) ∧
        game.state.timeless = second.state.timeless) ∧
    ∃ log, game.state.log = state.log ++ log ∧
      ∀ replays, replays.map (·.index) = log.map (·.choiceIndex) →
        let replay := navigator.play other (.opening state otherDice) replays
        replay.answers.map (Except.map Transition.told) =
            game.taken.map (fun transition => .ok transition.told) ∧
          replay.state.timeless = game.state.timeless := by
  intro opening game
  refine ⟨fun otherCalls same => ?_, ?_⟩
  · have openings : opening.Alike (.opening state otherDice) := ⟨rfl, rfl⟩
    have alike := navigator.play_alike openings returns otherReturns same
    exact ⟨alike.answers, alike.state⟩
  · obtain ⟨log, new, logged, taken, again⟩ := navigator.play_log other opening returns calls
    refine ⟨log, logged, fun replays named => ?_⟩
    obtain ⟨told, final⟩ := again (.opening state otherDice) rfl otherReturns replays named
    have all : game.taken = new := taken
    exact ⟨all ▸ told, final⟩

open scoped Host in
/-- Picking the lock of the lighthouse takes a roll, but leads on whatever is rolled. -/
theorem play_told_lighthouse :
    let one := RandomSource.ofSeed (.number 1)
    let two := RandomSource.ofSeed (.number 2)
    let calls : List Call := [⟨Story.Lighthouse.morning, .int 1⟩, ⟨Story.Lighthouse.morning, .int 0⟩]
    let play := Story.Lighthouse.navigator.play RandomSource.generator
    RandomSource.generator.Returns one ∧ RandomSource.generator.Returns two ∧
      (play (.opening Story.Lighthouse.opening one) calls).state.timeless =
        (play (.opening Story.Lighthouse.opening two) calls).state.timeless :=
  ⟨RandomSource.returns_ofSeed _, RandomSource.returns_ofSeed _,
    ((play_told (RandomSource.returns_ofSeed _) (RandomSource.returns_ofSeed _) _).1 _ rfl).2⟩

end Navigator
end Gamebook
