import Gamebook.Proofs.Play.Replay

/-!
Previews of choices. A state with a seed has the dice of its next choice at hand, so its preview
shows everything that taking the choice will give but the times; without a seed it shows all but the
rolls. No preview touches the dice that games share.
-/
namespace Gamebook

/-- A transition with one time for all. -/
def Transition.timeless (transition : Transition) : Transition :=
  { transition with state := transition.state.timeless }

/-- What a draw comes to, and the dice that it leaves. -/
def Drawing.ends {σ α : Type} (drawing : Drawing σ α) (dice : σ) : Outcome α × σ :=
  match drawing dice with
  | .ok value after => (.ok value, after)
  | .error failure after => (.error failure, after)

namespace Drawing
variable {σ α β : Type}

theorem ends_lift (outcome : Outcome α) (dice : σ) :
    ends (liftExcept outcome) dice = (outcome, dice) := by
  cases outcome with
  | ok value => rfl
  | error failure => rfl

private theorem ends_map (change : α → β) (drawing : Drawing σ α) (dice : σ) :
    ends (change <$> drawing) dice = ((ends drawing dice).1.map change, (ends drawing dice).2) := by
  unfold ends
  change (match EStateM.map change drawing dice with | .ok value after => _ | .error failure after => _) = _
  unfold EStateM.map
  cases drawing dice with
  | ok value after => rfl
  | error failure after => rfl

end Drawing

namespace Navigator

/-- A call of a navigator with the time at which it is made, and for previews the seed of their own
dice. -/
inductive Query where
  | choices (state : GameState)
  | validate (state : GameState) (index : Value)
  | ending (state : GameState)
  | progress (state : GameState)
  | content (id : Value)
  | preview (chance : Seed) (now : Timestamp) (state : GameState) (index : Value)
  | choose (now : Timestamp) (state : GameState) (index : Value)

inductive Reply where
  | choices (views : List ChoiceView)
  | verdict (verdict : Verdict)
  | ending (reached : Bool)
  | progress (progress : Progress)
  | content (node : StoryNode)
  | transition (transition : Transition)

variable {σ : Type} (navigator : Navigator) (generator : Generator σ)

def answer [Host] : Query → Drawing σ Reply
  | .choices state => Reply.choices <$> liftExcept (navigator.choices state)
  | .validate state index => Reply.verdict <$> liftExcept (navigator.validate state index)
  | .ending state => Reply.ending <$> liftExcept (navigator.isAtEnding state)
  | .progress state => Reply.progress <$> liftExcept (navigator.progress state)
  | .content id => Reply.content <$> liftExcept (navigator.node id)
  | .preview chance now state index =>
    Reply.transition <$> navigator.preview generator chance now state index
  | .choose now state index =>
    Reply.transition <$> navigator.makeChoice generator now state index

/-- The dice after calls, whatever these came to. -/
def diceAfter [Host] (dice : σ) (queries : List Query) : σ :=
  queries.foldl (fun dice query => (Drawing.ends (navigator.answer generator query) dice).2) dice

variable {generator} (now later : Timestamp) (state : GameState) (index : Value)

private theorem take_timeless [Host] : navigator.take generator .blank state.timeless index =
    Transition.timeless <$> navigator.take generator now state index := by
  unfold take
  rw [gate_timeless]
  simp only [map_eq_pure_bind, bind_assoc]
  refine bind_congr fun selection => bind_congr fun target => ?_
  refine bind_congr fun rolls => ?_
  rw [advance_timeless state now]
  cases advance now selection target state with
  | ok advanced => rfl
  | error failure => rfl

private theorem takeSeeded_eq [Host] (seed : Seed) : navigator.takeSeeded seed now state index =
    (Drawing.ends (navigator.take RandomSource.generator now state index) (.ofSeed seed)).1 := by
  unfold takeSeeded Drawing.ends
  cases navigator.take RandomSource.generator now state index (.ofSeed seed) with
  | ok transition after => rfl
  | error failure after => rfl

private theorem takeSeeded_timeless [Host] (seed : Seed) :
    (navigator.takeSeeded seed now state index).map Transition.timeless =
      navigator.takeSeeded seed .blank state.timeless index := by
  rw [takeSeeded_eq, takeSeeded_eq, navigator.take_timeless now, Drawing.ends_map]

/-- What a preview shows. No dice but its own decide it. -/
def previewed [Host] (chance : Seed) : Outcome Transition := do
  let seed ← Fault.lift (nextSeed? state)
  navigator.takeSeeded (seed.getD chance) now state index

private theorem nextSeed?_of_seedless (seedless : state.seed = .null) : nextSeed? state = .ok none := by
  rw [nextSeed?, seedless]
  rfl

private theorem nextSeed?_of_seeded (seeded : state.seed ≠ .null) :
    (∃ fault, nextSeed? state = .error fault) ∨ ∃ seed, nextSeed? state = .ok (some seed) := by
  have present : state.seed.present? = some state.seed := by
    cases given : state.seed with
    | null => exact absurd given seeded
    | _ => rfl
  simp only [nextSeed?, present]
  split
  · cases state.choiceCount with
    | error fault => exact .inl ⟨fault, rfl⟩
    | ok count =>
      cases made : Seed.ofText s!"{state.seed.asText}-{count}" with
      | error fault => exact .inl ⟨fault, congrArg (· >>= fun seed => pure (some seed)) made⟩
      | ok seed => exact .inr ⟨seed, congrArg (· >>= fun seed => pure (some seed)) made⟩
  · exact .inl ⟨.badValue, rfl⟩

private theorem previewed_timeless [Host] (chance : Seed) :
    (navigator.previewed now state index chance).map Transition.timeless =
      navigator.previewed .blank state.timeless index chance := by
  unfold previewed
  rw [map_bind, nextSeed?_timeless]
  exact bind_congr fun seed => navigator.takeSeeded_timeless now state index (seed.getD chance)

theorem makeChoice_of_seeded [Host] (seeded : state.seed ≠ .null) (chance : Seed) :
    navigator.makeChoice generator now state index =
      liftExcept (navigator.previewed now state index chance) := by
  unfold makeChoice previewed
  rcases nextSeed?_of_seeded state seeded with ⟨fault, broken⟩ | ⟨seed, next⟩
  · rw [broken]
    rfl
  · rw [next]
    rfl

/-- No preview draws from the shared dice. -/
theorem preview_eq [Host] (chance : Seed) : navigator.preview generator chance now state index =
    liftExcept (navigator.previewed now state index chance) := by
  unfold preview
  by_cases seedless : state.seed = .null
  · rw [if_pos (by rw [seedless]; rfl), previewed, nextSeed?_of_seedless state seedless]
    rfl
  · have given : ¬ state.seed.isNull = true := by
      cases seed : state.seed with
      | null => exact absurd seed seedless
      | _ => exact Bool.false_ne_true
    rw [if_neg given]
    exact navigator.makeChoice_of_seeded now state index seedless chance

private theorem makeChoice_ends [Host] {dice : σ} (returns : generator.Returns dice) :
    generator.Returns (Drawing.ends (navigator.makeChoice generator now state index) dice).2 ∧
      (Drawing.ends (navigator.makeChoice generator now state index) dice).1.map Transition.told =
        navigator.foretellChoice .blank state.timeless index := by
  obtain ⟨after, alive, ⟨transition, taken, foretold⟩ | ⟨failure, refused, foretold⟩⟩ :=
    navigator.makeChoice_told returns now state index
  · unfold Drawing.ends
    rw [taken, foretold]
    exact ⟨alive, rfl⟩
  · unfold Drawing.ends
    rw [refused, foretold]
    exact ⟨alive, rfl⟩

private theorem previewed_of_seedless [Host] (seedless : state.seed = .null) (chance : Seed) :
    navigator.previewed now state index chance = (Drawing.ends
      (navigator.makeChoice RandomSource.generator now state index) (.ofSeed chance)).1 := by
  unfold previewed makeChoice
  rw [nextSeed?_of_seedless state seedless]
  exact takeSeeded_eq navigator now state index chance

private theorem answer_returns [Host] {dice : σ} (returns : generator.Returns dice) (query : Query) :
    generator.Returns (Drawing.ends (navigator.answer generator query) dice).2 := by
  cases query with
  | choose now state index =>
    rw [answer, Drawing.ends_map]
    exact (navigator.makeChoice_ends now state index returns).1
  | preview chance now state index =>
    rw [answer, Drawing.ends_map, preview_eq, Drawing.ends_lift]
    exact returns
  | _ =>
    rw [answer, Drawing.ends_map, Drawing.ends_lift]
    exact returns

private theorem diceAfter_returns [Host] {dice : σ} (returns : generator.Returns dice)
    (queries : List Query) : generator.Returns (navigator.diceAfter generator dice queries) := by
  induction queries generalizing dice with
  | nil => exact returns
  | cons query queries ih => exact ih (navigator.answer_returns returns query)

/-- A preview leaves the shared dice alone and does not depend on them. Whatever is asked in
between, a choice that a state with a seed takes comes to what its preview showed, rolls included,
and draws as little from the shared dice. Without a seed, the preview still shows the failure, or
the effects and the next state. -/
theorem preview_faithful [Host] (generator : Generator σ) (chance : Seed) (dice : σ)
    (queries : List Query) :
    let previewed := Drawing.ends (navigator.preview generator chance now state index) dice
    let between := navigator.diceAfter generator dice (.preview chance now state index :: queries)
    let chosen := Drawing.ends (navigator.makeChoice generator later state index) between
    (previewed.2 = dice ∧
        (∀ other, (Drawing.ends (navigator.preview generator chance now state index) other).1 =
          previewed.1) ∧
        navigator.diceAfter generator dice [.preview chance now state index] = dice) ∧
      (state.seed ≠ .null → chosen.2 = between ∧
        chosen = Drawing.ends (navigator.preview generator chance later state index) between ∧
        chosen.1.map Transition.timeless = previewed.1.map Transition.timeless) ∧
      (state.seed = .null → generator.Returns dice →
        chosen.1.map Transition.told = previewed.1.map Transition.told) := by
  intro previewed between chosen
  have shows (time : Timestamp) (dice : σ) :
      Drawing.ends (navigator.preview generator chance time state index) dice =
        (navigator.previewed time state index chance, dice) := by
    rw [preview_eq, Drawing.ends_lift]
  have shown : previewed = (navigator.previewed now state index chance, dice) := shows now dice
  refine ⟨⟨?untouched, fun other => ?alike, ?between⟩, fun seeded => ?seeded,
    fun seedless returns => ?seedless⟩
  case untouched => rw [shown]
  case alike => rw [shows, shown]
  case between =>
    change (Drawing.ends (navigator.answer generator (.preview chance now state index)) dice).2 = dice
    rw [answer, Drawing.ends_map, preview_eq, Drawing.ends_lift]
  case seeded =>
    have ended : chosen = (navigator.previewed later state index chance, between) := by
      change Drawing.ends (navigator.makeChoice generator later state index) between = _
      rw [navigator.makeChoice_of_seeded later state index seeded chance, Drawing.ends_lift]
    refine ⟨congrArg Prod.snd ended, ended.trans (shows later between).symm, ?_⟩
    rw [ended, shown, previewed_timeless, previewed_timeless]
  case seedless =>
    have alive : generator.Returns between := navigator.diceAfter_returns returns _
    have own : RandomSource.generator.Returns (.ofSeed chance) := RandomSource.returns_ofSeed chance
    obtain ⟨_, told⟩ := navigator.makeChoice_ends now state index own
    rw [← previewed_of_seedless navigator now state index seedless chance] at told
    rw [shown]
    exact (navigator.makeChoice_ends later state index alive).2.trans told.symm

/-- At the door of the lighthouse, where picking the lock takes a roll. -/
def atDoor (seed : Value) : GameState :=
  { Story.Lighthouse.opening with currentNodeId := .text "lh_door", seed := seed }

open scoped Host in
theorem preview_faithful_atDoor :
    let navigator := Story.Lighthouse.navigator
    let generator := RandomSource.generator
    let dice := RandomSource.ofSeed (.number 1)
    let now := Story.Lighthouse.morning
    let between (seed : Value) := navigator.diceAfter generator dice
      [.preview (.number 2) now (atDoor seed) (.int 0), .choose now (atDoor .null) (.int 0)]
    (atDoor (.text "tide")).seed ≠ .null ∧ (atDoor .null).seed = .null ∧ generator.Returns dice ∧
      Drawing.ends (navigator.makeChoice generator now (atDoor (.text "tide")) (.int 0))
          (between (.text "tide")) =
        Drawing.ends (navigator.preview generator (.number 2) now (atDoor (.text "tide")) (.int 0))
          (between (.text "tide")) ∧
      (Drawing.ends (navigator.makeChoice generator now (atDoor .null) (.int 0))
          (between .null)).1.map Transition.told =
        (Drawing.ends (navigator.preview generator (.number 2) now (atDoor .null) (.int 0))
          dice).1.map Transition.told := by
  intro navigator generator dice now between
  have seeded : (atDoor (.text "tide")).seed ≠ .null := nofun
  have returns : generator.Returns dice := RandomSource.returns_ofSeed _
  obtain ⟨_, same, _⟩ := preview_faithful navigator now now (atDoor (.text "tide")) (.int 0) generator
    (.number 2) dice [.choose now (atDoor .null) (.int 0)]
  obtain ⟨_, _, told⟩ := preview_faithful navigator now now (atDoor .null) (.int 0) generator
    (.number 2) dice [.choose now (atDoor .null) (.int 0)]
  exact ⟨seeded, rfl, returns, (same seeded).2.1, told rfl returns⟩

end Navigator
end Gamebook
