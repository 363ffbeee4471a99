import Gamebook.Proofs.Play.Moving
import Gamebook.Proofs.Play.Run

/-!
The rules that hold of a game at every moment, whatever effects its story has: stats stay positive,
balances do not go below zero, nothing is carried in no quantity, and no status effect is there
twice or outlives its turns.
-/
namespace Gamebook

/-- Contents that keep the rules; status effects that end have at least `least` turns left. -/
structure GameState.Contents.Lawful (least : Int) (contents : GameState.Contents) : Prop where
  stats : ∀ entry ∈ contents.stats, entry.2.Reaches 1
  wallets : ∀ entry ∈ contents.wallets, ∃ balance : Int, entry.2 = .int balance ∧ 0 ≤ balance
  inventory : ∀ entry ∈ contents.inventory, ∃ quantity : Int, entry.2 = .int quantity ∧ 1 ≤ quantity
  types : StatusEffect.Distinct contents.effects
  durations : ∀ effect ∈ contents.effects, effect.Lasts least

/-- A stat that is there and is a whole number. -/
def GameState.HasWhole (state : GameState) (stat : String) : Prop :=
  ∃ (stats : Dict) (value : Int),
    state.stats = .known stats ∧ stats.get? (.text stat) = some (.int value)

namespace Effect

variable {effect : EffectDef} {contents after : GameState.Contents}

theorem Alters.lawful (alters : Alters effect contents after) (lawful : contents.Lawful 0) :
    after.Lawful 0 := by
  cases alters with
  | intro wallets inventory stats flags effects balances quantities scores marks statuses =>
    constructor
    case stats =>
      refine scores.values (·.Reaches 1) lawful.stats ?_
      rintro _ ⟨score, rfl, bound⟩
      exact Value.reaches_int bound
    case wallets => exact balances.values (·.IsWhole 0) lawful.wallets fun _ whole => whole
    case inventory => exact quantities.values (·.IsWhole 1) lawful.inventory fun _ whole => whole
    case types => exact statuses.distinct lawful.types
    case durations =>
      exact statuses.members (·.Lasts 0) lawful.durations fun _ made => (statusOf_lasts made).2

theorem Altered.lawful {effects : List EffectDef} (batch : Altered contents effects after)
    (lawful : contents.Lawful 0) : after.Lawful 0 :=
  batch.keep (·.Lawful 0) (fun _ _ _ _ lawful alters => alters.lawful lawful) lawful

variable {state next : GameState}

theorem Change.writes_whole (change : Change effect state next)
    (kind : effect.type = Target.stat.name) : next.HasWhole effect.target := by
  cases change with
  | stat stats value _ held bound =>
    exact ⟨_, value, rfl, Assoc.get?_insert_self _ (Value.beq_text_iff.mpr rfl)⟩
  | balance _ _ other => exact absurd (kind.symm.trans other) (by decide)
  | stock _ _ other => exact absurd (kind.symm.trans other) (by decide)
  | usedUp _ other => exact absurd (kind.symm.trans other) (by decide)
  | flag _ _ other => exact absurd (kind.symm.trans other) (by decide)
  | cured _ other => exact absurd (kind.symm.trans other) (by decide)
  | afflicted _ _ other => exact absurd (kind.symm.trans other) (by decide)

theorem Change.keeps_whole {stat : String} (change : Change effect state next)
    (whole : state.HasWhole stat) : next.HasWhole stat := by
  cases change with
  | stat stats value _ held bound =>
    by_cases same : effect.target = stat
    · subst same
      exact ⟨_, value, rfl, Assoc.get?_insert_self _ (Value.beq_text_iff.mpr rfl)⟩
    · obtain ⟨old, before, heldOld, found⟩ := whole
      obtain rfl := Loose.known.inj (held.symm.trans heldOld)
      refine ⟨_, before, rfl, ?_⟩
      rw [Assoc.get?_insert_other]
      · exact found
      · intro key here
        rw [Value.beq_text_iff.mp here, Value.beq_text_false_iff]
        simpa using same
      · simpa using same
  | _ => exact whole

theorem Changes.keeps_whole {stat : String} {effects : List EffectDef} {final : GameState}
    (changes : Changes state effects final) (whole : state.HasWhole stat) : final.HasWhole stat :=
  changes.keep (·.HasWhole stat) (fun _ _ _ _ held change => change.keeps_whole held) whole

/-- No later effect of a batch undoes that a stat was written. -/
theorem Changes.writes_whole {effects : List EffectDef} {final : GameState}
    (changes : Changes state effects final) :
    ∀ effect ∈ effects, effect.type = Target.stat.name → final.HasWhole effect.target := by
  induction changes with
  | done => nofun
  | more first rest ih =>
    intro effect member kind
    rcases List.mem_cons.mp member with rfl | later
    · exact rest.keeps_whole (first.writes_whole kind)
    · exact ih effect later kind

end Effect

namespace GameState

theorem Contents.Lawful.weaken {contents : Contents} (lawful : contents.Lawful 1) :
    contents.Lawful 0 :=
  { lawful with durations := fun effect member => (lawful.durations effect member).weaken }

theorem Fresh.lawful {story start : Value} {state : GameState} (fresh : state.Fresh story start)
    (accepted : state.validate = .ok ()) :
    ∃ contents : Contents, state = contents.state ∧ contents.Lawful 1 ∧ contents.history = [] := by
  obtain ⟨contents, rfl, valid⟩ := validate_eq_ok.mp accepted
  obtain ⟨_, _, _, log, _, wallets, inventory, _, effects⟩ := fresh.fields
  have noWallets : contents.wallets = [] := Loose.known.inj wallets
  have noInventory : contents.inventory = [] := Loose.known.inj inventory
  have noEffects : contents.effects = [] := List.map_eq_nil_iff.mp (Loose.known.inj effects)
  refine ⟨contents, rfl, ⟨?_, ?_, ?_, ?_, ?_⟩, List.map_eq_nil_iff.mp (Loose.known.inj log)⟩
  · exact fun entry member => (Value.isAtLeast_eq_ok.mp (valid.stats entry member)).1
  · simp [noWallets]
  · simp [noInventory]
  · simp [noEffects, StatusEffect.Distinct]
  · simp [noEffects]

end GameState

namespace Navigator
variable {navigator : Navigator} {now : Timestamp} {contents : GameState.Contents} {index : Value}
  {transition : Transition}

theorem Moves.lawful {next : GameState.Contents} (moves : navigator.Moves now contents next)
    (lawful : contents.Lawful 1) :
    next.Lawful 1 ∧ next.history.length = contents.history.length + 1 := by
  cases moves with
  | intro node target place choice applied altered lasting here chosen leads alters offered ticked =>
    have kept := alters.lawful lawful.weaken
    refine ⟨{ kept with types := ?_, durations := ?_ }, List.length_append⟩
    · exact StatusEffect.tickAll_distinct ticked kept.types
    · intro effect member
      obtain ⟨source, inside, lasts⟩ := StatusEffect.mem_tickAll ticked member
      exact StatusEffect.tick_lasts 0 (kept.durations source inside) lasts

theorem Taken.keeps_whole [Host] {state : GameState} {stat : String}
    (taken : navigator.Taken now state index transition) (whole : state.HasWhole stat) :
    transition.state.HasWhole stat := by
  cases taken with
  | intro node target place choice copy changed applied history visits entries lasting rolls here
      goesOn named chosen leads copied changes offered logged visited held ticked =>
    obtain ⟨stats, value, known, found⟩ := whole
    obtain ⟨_, _, _, _, _, _, _, _, statsRead, _, _, _, _, copyIs⟩ := GameState.copy_eq_ok copied
    rw [known] at statsRead
    cases statsRead
    exact changes.keeps_whole ⟨stats, value, by rw [copyIs], found⟩

theorem Taken.writes_whole [Host] {state : GameState}
    (taken : navigator.Taken now state index transition) :
    ∀ effect ∈ transition.applied, effect.type = Effect.Target.stat.name →
      transition.state.HasWhole effect.target := by
  cases taken with
  | intro node target place choice copy changed applied history visits entries lasting rolls here
      goesOn named chosen leads copied changes offered logged visited held ticked =>
    exact changes.writes_whole

variable {σ : Type} {generator : Generator σ} {dice : σ}

/-- Every moment of a game keeps the rules: the state after any calls does, each stat that an effect
wrote on the way is a whole number, and the log has one entry for each choice that was taken. -/
theorem play_lawful [Host] {story start : Value} {state : GameState} (fresh : state.Fresh story start)
    (accepted : state.validate = .ok ()) (calls : List Call) :
    let game := navigator.play generator (.opening state dice) calls
    ∃ contents : GameState.Contents, game.state = contents.state ∧ contents.Lawful 1 ∧
      contents.history.length = game.taken.length ∧
      ∀ transition ∈ game.taken, ∀ effect ∈ transition.applied,
        effect.type = Effect.Target.stat.name → game.state.HasWhole effect.target := by
  refine play_induction (fun game => ∃ contents : GameState.Contents,
    game.state = contents.state ∧ contents.Lawful 1 ∧ contents.history.length = game.taken.length ∧
    ∀ transition ∈ game.taken, ∀ effect ∈ transition.applied,
      effect.type = Effect.Target.stat.name → game.state.HasWhole effect.target) calls ?_ ?_ ?_
  · intro game call failure dice kept _
    simpa only [Playthrough.taken_refused] using kept
  · rintro ⟨_, before, answers⟩ call transition dice ⟨contents, rfl, lawful, logged, whole⟩ taken
    obtain ⟨next, nextIs, moves⟩ := taken.moves
    obtain ⟨nextLawful, longer⟩ := moves.lawful lawful
    refine ⟨next, nextIs, nextLawful, ?_, ?_⟩
    · rw [Playthrough.taken_taken, List.length_append, List.length_singleton, longer, logged]
    · intro made member effect applied kind
      rw [Playthrough.taken_taken] at member
      rcases List.mem_append.mp member with earlier | last
      · exact taken.keeps_whole (whole made earlier effect applied kind)
      · obtain rfl := List.mem_singleton.mp last
        exact taken.writes_whole effect applied kind
  · obtain ⟨contents, rfl, lawful, logged⟩ := fresh.lawful accepted
    exact ⟨contents, rfl, lawful, by simp [logged], by simp⟩

open scoped Host in
theorem play_lawful_lighthouse : Story.Lighthouse.opening.validate = .ok () ∧
    ∃ contents : GameState.Contents,
      (Story.Lighthouse.navigator.play RandomSource.generator (.opening Story.Lighthouse.opening
        (.fixed [])) [⟨Story.Lighthouse.morning, .int 0⟩]).state = contents.state ∧
      contents.Lawful 1 := by
  obtain ⟨_, accepted⟩ : ∃ done, Story.Lighthouse.opening.validate = .ok done :=
    ok_of_isOk (by decide +kernel)
  obtain ⟨contents, same, lawful, _⟩ := play_lawful (.usual ..) accepted
    [⟨Story.Lighthouse.morning, .int 0⟩]
  exact ⟨accepted, contents, same, lawful⟩

end Navigator
end Gamebook
