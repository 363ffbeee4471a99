import Gamebook.Proofs.Effect.Lifetime
import Gamebook.Proofs.Play.Replay
import Mathlib.Data.List.Induction

/-!
How long a status lasts in a game. A transition puts it in place before its own turn passes, so that
of its duration one turn is gone when it is first seen, and one more with each transition after that.
-/
namespace Gamebook
namespace Navigator
variable {σ : Type} {navigator : Navigator} {generator : Generator σ} {now : Timestamp}
  {state : GameState} {index : Value} {transition : Transition} {name : String}
  {own : Option StatusEffect}

/-- A transition runs effects in a copy of the state, and then a turn passes. -/
theorem makeChoice_runs [Host] {before after : σ}
    (made : navigator.makeChoice generator now state index before = .ok transition after) :
    ∃ copy effects entries lasting, state.copy = .ok copy ∧
      transition.applied = (Effect.run copy effects).applied ∧
      (Effect.run copy effects).state.statusEffects.items .other = .ok entries ∧
      StatusEffect.tickAll entries = .ok lasting ∧
      transition.state.statusEffects = .known (lasting.map .known) := by
  obtain ⟨_, source, _, _, taken⟩ := makeChoice_takes made
  obtain ⟨selection, _, _, _, _, _, _, _, advanced, rfl⟩ := take_eq_ok.mp taken
  obtain ⟨copy, _, _, entries, lasting, copied, ran, _, _, held, ticked, rfl⟩ := advance_runs advanced
  exact ⟨copy, selection.choice.effects, entries, lasting, copied, ran, held, ticked, rfl⟩

theorem makeChoice_inflicts [Host] {before after : σ} {earlier rest : List EffectDef}
    {effect : EffectDef}
    (made : navigator.makeChoice generator now state index before = .ok transition after)
    (applied : transition.applied = earlier ++ effect :: rest) (inflicts : effect.Inflicts)
    (untouched : ∀ other ∈ rest, ¬other.Touches effect.target) :
    ∃ status, Effect.statusOf effect = .ok status ∧
      transition.state.Bears effect.target (status.after 1) := by
  obtain ⟨copy, effects, entries, lasting, copied, ran, held, ticked, left⟩ := makeChoice_runs made
  obtain ⟨status, told, bears⟩ := Effect.run_inflicts (ran ▸ applied) inflicts untouched
  have counted : ∀ own ∈ some status, own.IsCounted := by
    rintro _ ⟨⟩
    exact (Effect.statusOf_lasts told).2.isCounted
  refine ⟨status, told, lasting, ?_, Effect.bears_tickAll bears counted held ticked⟩
  rw [left, Loose.entries_known]

theorem makeChoice_bears [Host] {before after : σ}
    (made : navigator.makeChoice generator now state index before = .ok transition after)
    (untouched : ∀ other ∈ transition.applied, ¬other.Touches name) (bears : state.Bears name own)
    (counted : ∀ status ∈ own, status.IsCounted) :
    transition.state.Bears name (own.bind (·.after 1)) := by
  obtain ⟨copy, effects, entries, lasting, copied, ran, held, ticked, left⟩ := makeChoice_runs made
  have changes := Effect.run_changes copy effects
  rw [← ran] at changes
  have bears := changes.bears untouched (GameState.copy_bears copied bears)
  refine ⟨lasting, ?_, Effect.bears_tickAll bears counted held ticked⟩
  rw [left, Loose.entries_known]

theorem play_bears [Host] {game : Playthrough σ} (opening : game.answers = []) (calls : List Call)
    {earlier later : List Transition} {first : Transition} {before rest : List EffectDef}
    {effect : EffectDef}
    (taken : (navigator.play generator game calls).taken = earlier ++ first :: later)
    (applied : first.applied = before ++ effect :: rest) (inflicts : effect.Inflicts)
    (untouched : ∀ other ∈ rest ++ later.flatMap (·.applied), ¬other.Touches effect.target) :
    ∃ status, Effect.statusOf effect = .ok status ∧
      (navigator.play generator game calls).state.Bears effect.target
        (status.after (later.length + 1)) := by
  -- The last call is taken off, and with it the last of the later transitions, if it was taken.
  induction calls using List.reverseRecOn generalizing earlier later with
  | nil => simp [play, Playthrough.taken, opening] at taken
  | append_singleton calls call ih =>
    rw [play_concat] at taken ⊢
    generalize navigator.play generator game calls = played at taken ih ⊢
    cases made : navigator.makeChoice generator call.now played.state call.index played.dice with
    | error failure dice =>
      rw [call_refused made] at taken ⊢
      rw [Playthrough.taken_refused] at taken
      exact ih taken untouched
    | ok transition dice =>
      rw [call_taken made] at taken ⊢
      rw [Playthrough.taken_taken] at taken
      rcases List.eq_nil_or_concat later with rfl | ⟨others, last, rfl⟩
      · obtain ⟨_, rfl⟩ := List.append_singleton_inj.mp taken
        exact makeChoice_inflicts made applied inflicts (by simpa using untouched)
      · rw [List.concat_eq_append, ← List.cons_append, ← List.append_assoc] at taken
        obtain ⟨same, rfl⟩ := List.append_singleton_inj.mp taken
        simp only [List.concat_eq_append, List.flatMap_append, List.flatMap_singleton,
          ← List.append_assoc, List.forall_mem_append] at untouched
        obtain ⟨status, told, bears⟩ := ih same (List.forall_mem_append.mpr untouched.1)
        have lasts := (Effect.statusOf_lasts told).2.isCounted
        have bears := makeChoice_bears made untouched.2 bears fun left member => lasts.after member
        rw [lasts.after_succ] at bears
        exact ⟨status, told, by simpa using bears⟩

/-- Turns leave permanent effects and those with a greater duration, less the turns, as they stand.
So a status with a duration that one transition put in place, and that nothing touched since, is
there after further transitions if the duration is greater than their number and one. -/
theorem status_lifetime [Host] (navigator : Navigator) (generator : Generator σ) :
    (∀ (state : GameState) (effects : List StatusEffect),
      state.statusEffects = .known (effects.map .known) →
      (∀ effect ∈ effects, effect.IsCounted) → ∀ turns, 1 ≤ turns →
      Effect.passTurns turns state = .ok { state with
        statusEffects := .known ((effects.filterMap (·.after turns)).map .known) }) ∧
    ∀ (state : GameState) (dice : σ) (calls : List Call) (earlier later : List Transition)
      (first : Transition) (before rest : List EffectDef) (effect : EffectDef),
      let game := navigator.play generator (.opening state dice) calls
      game.taken = earlier ++ first :: later → first.applied = before ++ effect :: rest →
      effect.Inflicts → (∀ other ∈ rest ++ later.flatMap (·.applied), ¬other.Touches effect.target) →
      ∃ status left, Effect.statusOf effect = .ok status ∧
        game.state.statusEffects.entries = .ok left ∧
        (status.duration = .null → left.filter (·.hasType (.text effect.target)) = [status]) ∧
        ∀ duration : Int, status.duration = .int duration →
          left.filter (·.hasType (.text effect.target)) =
            if later.length + 1 < duration then
              [{ status with duration := .int (duration - later.length - 1) }]
            else [] := by
  constructor
  · intro state effects held counted turns some
    obtain ⟨turns, rfl⟩ := Nat.exists_eq_add_of_le' some
    exact Effect.passTurns_counted held counted turns
  · intro state dice calls earlier later first before rest effect game taken applied inflicts untouched
    obtain ⟨status, told, left, held, mine⟩ := play_bears rfl calls taken applied inflicts untouched
    refine ⟨status, left, told, held, fun permanent => ?_, fun duration timed => ?_⟩
    · rw [mine, StatusEffect.after_permanent permanent]
      rfl
    · rw [mine, StatusEffect.after_timed timed]
      have remains : duration - ((later.length + 1 : Nat) : Int) = duration - later.length - 1 := by
        omega
      rw [remains]
      split <;> rename_i long <;> simp at long <;> simp [long]

/-- Blessed for good, seasick for three turns and no longer wet. -/
def ailments : List StatusEffect :=
  [⟨.text "blessed", .int 1, .null, .null⟩, ⟨.text "seasick", .int 1, .int 3, .null⟩,
    ⟨.text "wet", .int 1, .int 0, .null⟩]

/-- The same two turns later. -/
def recovering : List StatusEffect :=
  [⟨.text "blessed", .int 1, .null, .null⟩, ⟨.text "seasick", .int 1, .int 1, .null⟩]

/-- The keeper on the stairs, which exhaust for two turns. -/
def ascent : GameState := { Story.Lighthouse.opening with
  currentNodeId := .text "lh_stairs"
  statusEffects := .known (ailments.map .known) }

/-- Taking the first choice a number of times. -/
def ascend [Host] (steps : Nat) : Playthrough RandomSource :=
  Story.Lighthouse.navigator.play RandomSource.generator (.opening ascent (.fixed []))
    (List.replicate steps ⟨Story.Lighthouse.morning, .int 0⟩)

open scoped Host in
theorem status_lifetime_ascent :
    Effect.passTurns 2 ascent =
      .ok { ascent with statusEffects := .known (recovering.map .known) } ∧
    (∃ left, (ascend 1).state.statusEffects.entries = .ok left ∧
      left.filter (·.hasType (.text "exhausted")) =
        [⟨.text "exhausted", .int 1, .int 1, .text "stairs"⟩]) ∧
    ∃ left, (ascend 2).state.statusEffects.entries = .ok left ∧
      left.filter (·.hasType (.text "exhausted")) = [] := by
  have counted : ∀ effect ∈ ailments, effect.IsCounted := by
    simp [ailments, StatusEffect.IsCounted]
  have made : Effect.statusOf Story.Lighthouse.exhaustion =
      .ok ⟨.text "exhausted", .int 1, .int 2, .text "stairs"⟩ := by with_unfolding_all rfl
  have inflicts : Story.Lighthouse.exhaustion.Inflicts := ⟨rfl, .inl rfl⟩
  have once : (ascend 1).taken.map (·.applied) = [[Story.Lighthouse.exhaustion]] := by
    with_unfolding_all rfl
  have twice : (ascend 2).taken.map (·.applied) = [[Story.Lighthouse.exhaustion], []] := by
    with_unfolding_all rfl
  obtain ⟨turns, lasts⟩ :=
    status_lifetime Story.Lighthouse.navigator RandomSource.generator
  refine ⟨turns ascent ailments rfl counted 2 (by decide), ?_, ?_⟩
  · obtain ⟨first, taken, applied⟩ := List.map_eq_singleton_iff.mp once
    obtain ⟨status, left, told, held, _, timed⟩ := lasts ascent (.fixed []) _ [] [] first [] [] _
      taken applied inflicts (by simp)
    obtain rfl := Except.ok.inj (made.symm.trans told)
    exact ⟨left, held, timed 2 rfl⟩
  · obtain ⟨first, others, taken, applied, rest⟩ := List.map_eq_cons_iff.mp twice
    obtain ⟨second, rfl, nothing⟩ := List.map_eq_singleton_iff.mp rest
    obtain ⟨status, left, told, held, _, timed⟩ := lasts ascent (.fixed []) _ [] [second] first [] []
      _ taken applied inflicts (by simp [nothing])
    obtain rfl := Except.ok.inj (made.symm.trans told)
    exact ⟨left, held, timed 2 rfl⟩

end Navigator
end Gamebook
