import Gamebook.Proofs.Play.Beginning
import Gamebook.Proofs.Play.Escape
import Gamebook.Proofs.Play.Listing
import Gamebook.Proofs.Play.Preview
import Gamebook.Proofs.Play.Reloading
import Gamebook.Proofs.Play.Resuming
import Gamebook.Proofs.State.Oversized

/-!
Games in a directory where every save is that of a game which was started there. They can be listed,
loaded and shown as long as their numbers fit doubles; what else keeps them from going on is in the
choices themselves.
-/
namespace Gamebook

/-- A game of a story of a library, with dice of its own. -/
structure GameState.Contents.InPlay (library : Library) (contents : GameState.Contents) : Prop where
  onPath : ∃ story history names here, library.story (.text contents.story) = .ok story ∧
    contents.state.OnPath story contents.story history names here
  seeded : contents.seed ≠ .null

/-- Every save is that of such a game. -/
def SaveStore.InPlay [Host] (library : Library) (store : SaveStore) : Prop :=
  store.Every fun id entry => ∃ contents, id.Keeps contents entry ∧ contents.InPlay library

theorem SaveStore.InPlay.own [Host] {library : Library} {store : SaveStore}
    (inPlay : store.InPlay library) : store.Own := by
  intro id entry held
  obtain ⟨contents, keeps, _⟩ := inPlay id entry held
  exact ⟨contents, keeps⟩

namespace GameState.Contents.InPlay
variable {library : Library} {contents reachedContents : GameState.Contents}

theorem sorted (inPlay : contents.InPlay library) : contents.sorted.InPlay library := by
  obtain ⟨⟨story, history, names, here, found, on⟩, seeded⟩ := inPlay
  exact ⟨⟨story, history, names, here, found, on.storyId, on.current, on.log, on.path, on.visits⟩,
    seeded⟩

theorem fresh {now : Timestamp} {player save seed : String} {story : Story}
    (found : library.story (.text story.id) = .ok story) :
    (GameState.Contents.fresh now player story.id save story.start seed).InPlay library := by
  have new : (GameState.Contents.fresh now player story.id save story.start seed).state.Fresh
      (.text story.id) (.text story.start) := .usual now (.text player) (.text save) (.text seed)
  exact ⟨⟨story, _, _, _, found, new.onPath⟩, nofun⟩

theorem taken [Host] (linked : library.Linked) (inPlay : contents.InPlay library)
    {predicates : Condition.Predicates} {now : Timestamp} {index : Value} {transition : Transition}
    (taken : Navigator.Taken ⟨library.source, predicates⟩ now contents.state index transition)
    (reached : transition.state = reachedContents.state) : reachedContents.InPlay library := by
  obtain ⟨⟨story, history, names, here, found, on⟩, seeded⟩ := inPlay
  obtain ⟨history, names, here, on⟩ := taken.onPath rfl linked (Library.story_eq_ok found) on
  have seed : transition.state.seed = contents.seed := taken.sameGame.seed
  rw [reached] at on seed
  have same : reachedContents.story = contents.story := Value.text.inj on.storyId
  have sameSeed : reachedContents.seed = contents.seed := seed
  exact ⟨⟨story, history, names, here, same ▸ found, same ▸ on⟩, sameSeed ▸ seeded⟩

/-- A game in play can be shown unless a condition jams where it stands. -/
theorem view_eq_error {σ : Type} {master : GameMaster σ}
    (plays : master.stories = .ok library.source) (linked : library.Linked)
    (inPlay : contents.InPlay library) (keyed : contents.Keyed) {failure : Failure} :
    master.view contents.state = .error failure ↔
      failure = .fault .badValue ∧ Navigator.Jammed ⟨library.source, master.predicates⟩ contents := by
  obtain ⟨⟨story, history, names, here, found, on⟩, _⟩ := inPlay
  have listed := Library.story_eq_ok found
  obtain ⟨node, current, _⟩ := Navigator.currentNode_of_path
    (rfl : (Navigator.mk library.source master.predicates).stories = library.source) linked listed on
  have stands : library.source.node? contents.node = some node := Navigator.node_text_eq_ok.mp current
  have known : Navigator.KnowsProgress library contents := by
    refine Navigator.knowsProgress_of_le found (Nat.zero_le 1000) ?_
    have visits : contents.visits = names.eraseDups.map .text := Loose.known.inj on.visits
    rw [visits, List.length_map, Nat.pow_zero, Nat.mul_one]
    exact (linked.closed _ listed).visited_le on.path
  rw [GameMaster.view_eq_error plays keyed]
  constructor
  · rintro (missing | ⟨here, offered, guarded, jams⟩ | ⟨_, _, hides⟩)
    · cases missing.symm.trans stands
    · exact ⟨rfl, _, here, fun answers => answers _ offered _ guarded jams⟩
    · exact absurd known (Navigator.hidesProgress_iff.mp ⟨_, hides⟩)
  · rintro ⟨rfl, other, here, jams⟩
    simp only [Navigator.Answers, not_forall, not_not, exists_prop] at jams
    obtain ⟨choice, offered, condition, guarded, jams⟩ := jams
    exact .veiled (.condition here offered guarded jams)

/-- Players are not told of a refusal exactly when it is not declared, for nothing is missing. -/
theorem refused_iff [Host] (linked : library.Linked) (inPlay : contents.InPlay library)
    (valid : contents.Valid) {predicates : Condition.Predicates} {now : Timestamp} {index : Value}
    {failure : Failure} :
    Navigator.foretellChoice ⟨library.source, predicates⟩ now contents.state index = .error failure ∧
      failure.isUnavailableChoice = false ↔
      Navigator.Escapes ⟨library.source, predicates⟩ contents.state index failure := by
  constructor
  · rintro ⟨refused, untold⟩
    refine Navigator.escapes_of_foretellChoice valid ?_ refused
    rintro ⟨kind, key⟩ <;> cases untold
    obtain ⟨story, history, names, here, found, on⟩ := inPlay.onPath
    have listed := Library.story_eq_ok found
    have plays : (Navigator.mk library.source predicates).stories = library.source := rfl
    obtain ⟨node, current, stands, _⟩ := Navigator.currentNode_of_path plays linked listed on
    have leads : ∀ choice ∈ node.choices, ∃ target,
        Navigator.node ⟨library.source, predicates⟩ (.text choice.target) = .ok target := by
      intro choice member
      obtain ⟨place, offered⟩ := List.mem_iff_getElem?.mp member
      have inside := (linked.closed _ listed).target_mem stands offered
      obtain ⟨target, leads, _⟩ := Navigator.node_of_mem plays linked listed inside
      exact ⟨target, leads⟩
    obtain ⟨after, failed⟩ :=
      (Navigator.makeChoice_eq_error (RandomSource.returns_ofSeed (.number 0))).mpr refused
    exact Navigator.makeChoice_isOther current leads _ _ _ failed kind key rfl
  · intro escapes
    have undeclared := escapes.undeclared
    refine ⟨escapes.foretellChoice_eq_error valid undeclared, ?_⟩
    cases failure with
    | noSuchChoice node index count => exact absurd (.noChoice node index count) undeclared
    | conditionsNotMet node index failed => exact absurd (.locked node index failed) undeclared
    | unknownStat stat => exact absurd (.noStat stat) undeclared
    | _ => rfl

end GameState.Contents.InPlay

theorem GameState.Contents.Sized.valid {contents : GameState.Contents} (sized : contents.Sized)
    (storable : contents.Storable) : contents.sorted.Valid := by
  obtain ⟨other, same, valid⟩ := GameState.validate_eq_ok.mp
    ((GameState.Contents.validate_sorted storable).mpr ⟨sized.stats, sized.wallets, sized.inventory⟩)
  exact GameState.Contents.state_injective same ▸ valid

namespace Navigator
variable {σ : Type} {generator : Generator σ}

theorem failsWith_ends {α : Type} {drawing : Drawing σ α} {dice : σ} {failure : Failure} :
    FailsWith drawing dice failure ↔ (Drawing.ends drawing dice).1 = .error failure := by
  unfold FailsWith Drawing.ends
  cases drawing dice with
  | ok value after => exact ⟨by rintro ⟨_, ⟨⟩⟩, nofun⟩
  | error problem after => exact ⟨by rintro ⟨_, ⟨⟩⟩; rfl, by rintro ⟨⟩; exact ⟨after, rfl⟩⟩

/-- With a seed, whether a call fails does not depend on the shared dice at all. -/
theorem makeChoice_failsWith [Host] {navigator : Navigator} {now : Timestamp} {state : GameState}
    {index : Value} {dice : σ} {failure : Failure} (seeded : state.seed ≠ .null) :
    FailsWith (navigator.makeChoice generator now state index) dice failure ↔
      navigator.foretellChoice now state index = .error failure := by
  let chance : Seed := .number 0
  rw [← makeChoice_eq_error (RandomSource.returns_ofSeed chance)]
  change _ ↔ FailsWith (navigator.makeChoice RandomSource.generator now state index) _ failure
  rw [failsWith_ends, failsWith_ends, makeChoice_of_seeded navigator now state index seeded chance,
    makeChoice_of_seeded navigator now state index seeded chance, Drawing.ends_lift, Drawing.ends_lift]

end Navigator

/-- The stories are those of a library that was loaded from a plain document. -/
structure GameMaster.Offers {σ : Type} (master : GameMaster σ) (library : Library) : Prop where
  stories : master.stories = .ok library.source
  loaded : ∃ document, Dict.Plain document ∧ Library.ofDocument document = .ok library

/-- What else than a choice that is not available keeps the game of a save from going on, in the
order in which it comes up; a game that cannot be shown has been written before. -/
inductive SaveId.Blocks [Host] {σ : Type} (id : SaveId) (contents : GameState.Contents)
    (navigator : Navigator) (generator : Generator σ) (now : Timestamp) (index : Value) (dice : σ) :
    Failure → Prop
  | large (large : ¬ contents.Sized) :
      Blocks id contents navigator generator now index dice (.fault .tooLarge)
  | choice {failure : Failure} (sized : contents.Sized)
      (escapes : navigator.Escapes contents.sorted.state index failure) :
      Blocks id contents navigator generator now index dice failure
  | writing {failure : Failure} {transition : Transition} {after : σ} {next : GameState.Contents}
      (sized : contents.Sized)
      (chosen : navigator.makeChoice generator now contents.sorted.state index dice =
        .ok transition after)
      (reached : transition.state = next.state) (refuses : id.Refuses next failure) :
      Blocks id contents navigator generator now index dice failure
  | showing {transition : Transition} {after : σ} {next : GameState.Contents}
      (sized : contents.Sized)
      (chosen : navigator.makeChoice generator now contents.sorted.state index dice =
        .ok transition after)
      (reached : transition.state = next.state) (written : ∀ failure, ¬ id.Refuses next failure)
      (jammed : navigator.Jammed next) :
      Blocks id contents navigator generator now index dice (.fault .badValue)

namespace GameMaster
variable {σ : Type} {master : GameMaster σ} {library : Library} {world after : World σ}
  {now : Timestamp} {id : SaveId} {entry : Entry} {contents : GameState.Contents} {index : Value}
  {failure : Failure} {view : GameView}

theorem Offers.hasPlain (offers : master.Offers library) : master.HasPlain := by
  intro source stories
  obtain ⟨document, legible, read⟩ := offers.loaded
  exact ⟨document, library, legible, read, Except.ok.inj (stories.symm.trans offers.stories)⟩

theorem Offers.linked (offers : master.Offers library) : library.Linked := by
  obtain ⟨_, _, read⟩ := offers.loaded
  exact (Library.ofDocument_linked read).1

theorem Offers.plain (offers : master.Offers library) : library.Plain := by
  obtain ⟨_, legible, read⟩ := offers.loaded
  exact Library.ofDocument_plain legible read

theorem Offers.taken [Host] (offers : master.Offers library) (aware : now.IsAware)
    (keeps : id.Keeps contents entry) (inPlay : contents.InPlay library) {transition : Transition}
    (taken : Navigator.Taken ⟨library.source, master.predicates⟩ now contents.sorted.state index
      transition) : ∃ next : GameState.Contents, transition.state = next.state ∧ next.Storable ∧
        next.InPlay library ∧ next.save = id.text := by
  obtain ⟨next, reached, moves⟩ := taken.moves
  have storable : next.Storable :=
    moves.storable rfl offers.linked offers.plain aware keeps.storable.sorted
  have own : transition.state.saveId = .text contents.save := taken.sameGame.save
  rw [reached] at own
  exact ⟨next, reached, storable, inPlay.sorted.taken offers.linked taken reached,
    (Value.text.inj own).trans (Value.text.inj keeps.named)⟩

theorem choose_large [Host] (held : world.saves.held id = some entry)
    (keeps : id.Keeps contents entry) (large : ¬ contents.Sized) :
    FailsWith (master.choose now (.text id.text) index) world failure ↔ failure = .fault .tooLarge := by
  have stopped := SaveStore.load_oversized held keeps large
  constructor
  · intro failed
    rcases failsWith_lift_bind.mp failed with unasked | ⟨_, asked, failed⟩
    · cases id.ofValue_text.symm.trans unasked
    obtain rfl := Except.ok.inj (id.ofValue_text.symm.trans asked)
    rcases failsWith_bind.mp failed with ⟨after, unloaded⟩ | ⟨_, _, loaded, _⟩
    · exact (Except.error.inj (stopped.symm.trans (Playing.load_eq_error.mp unloaded).1)).symm
    · cases stopped.symm.trans (Playing.load_eq_ok.mp loaded).1
  · rintro rfl
    refine failsWith_lift_bind.mpr (.inr ⟨id, id.ofValue_text, ?_⟩)
    exact failsWith_bind.mpr (.inl ⟨world, Playing.load_eq_error.mpr ⟨stopped, rfl⟩⟩)

/-- A transition that was taken fails where its state cannot be written, and else where it cannot be
shown. -/
theorem written_failsWith [Host] (offers : master.Offers library) {transition : Transition}
    {next : GameState.Contents} (reached : transition.state = next.state) (storable : next.Storable)
    (plays : next.InPlay library) (own : next.save = id.text)
    (free : world.saves.held id ≠ some .directory) :
    FailsWith (do
      Playing.persist transition.state
      return (transition, ← Playing.outcome (master.view transition.state))) world failure ↔
      id.Refuses next failure ∨ (∀ other, ¬ id.Refuses next other) ∧ failure = .fault .badValue ∧
        Navigator.Jammed ⟨library.source, master.predicates⟩ next := by
  rw [reached]
  have persists (problem : Failure) : FailsWith (Playing.persist next.state) world problem ↔
      id.Refuses next problem := Playing.persist_failsWith storable own free
  have views : master.view next.state = .error failure ↔ failure = .fault .badValue ∧
      Navigator.Jammed ⟨library.source, master.predicates⟩ next :=
    plays.view_eq_error offers.stories offers.linked storable.toSound.keyed
  refine failsWith_bind.trans (or_congr (persists failure) ?_)
  -- The view is only asked for once the state is written, so one cause rules out the other.
  cases persisted : Playing.persist next.state world with
  | error problem after =>
    refine iff_of_false (by rintro ⟨_, _, ⟨⟩, _⟩) ?_
    exact fun written => written.1 problem ((persists problem).mp ⟨after, persisted⟩)
  | ok _ after =>
    have written (other : Failure) : ¬ id.Refuses next other := by
      intro refuses
      obtain ⟨_, unwritten⟩ := (persists other).mpr refuses
      cases persisted.symm.trans unwritten
    constructor
    · rintro ⟨_, _, _, failed⟩
      rcases failsWith_lift_bind.mp failed with unseen | ⟨_, _, never⟩
      · exact ⟨written, views.mp unseen⟩
      · exact absurd never (failsWith_pure _)
    · rintro ⟨_, unseen⟩
      exact ⟨_, after, rfl, failsWith_lift_bind.mpr (.inl (views.mpr unseen))⟩

/-- A game that is loaded goes on unless the choice is refused or what it leads to is. -/
theorem choose_sized [Host] (offers : master.Offers library) (aware : now.IsAware)
    (held : world.saves.held id = some entry) (keeps : id.Keeps contents entry)
    (inPlay : contents.InPlay library) (sized : contents.Sized) :
    FailsWith (master.choose now (.text id.text) index) world failure ↔
      Navigator.foretellChoice ⟨library.source, master.predicates⟩ now contents.sorted.state index =
        .error failure ∨
      ∃ (transition : Transition) (after : σ) (next : GameState.Contents),
        Navigator.makeChoice ⟨library.source, master.predicates⟩ master.generator now
          contents.sorted.state index world.dice = .ok transition after ∧
        transition.state = next.state ∧ (id.Refuses next failure ∨ (∀ other, ¬ id.Refuses next other) ∧
          failure = .fault .badValue ∧
          Navigator.Jammed ⟨library.source, master.predicates⟩ next) := by
  have navigates : master.navigator = .ok ⟨library.source, master.predicates⟩ :=
    bind_eq_ok.mpr ⟨_, offers.stories, rfl⟩
  have seeded : contents.sorted.state.seed ≠ .null := inPlay.seeded
  have free (dice : σ) : (World.mk world.saves dice).saves.held id ≠ some .directory := by
    rw [held, keeps.written]
    nofun
  -- A choice that was taken leads to what the save can hold, be it only for its size.
  have goesOn {transition : Transition} {dice : σ} (chosen : Navigator.makeChoice
      ⟨library.source, master.predicates⟩ master.generator now contents.sorted.state index world.dice =
        .ok transition dice) := offers.taken aware keeps inPlay (Navigator.makeChoice_taken chosen)
  unfold FailsWith
  rw [choose_of_load id.ofValue_text ((SaveStore.load_kept held keeps _).mpr ⟨sized, rfl⟩)]
  refine failsWith_lift_bind.trans ⟨?_, ?_⟩
  · rintro (lost | ⟨_, found, failed⟩)
    · cases navigates.symm.trans lost
    obtain rfl := Except.ok.inj (navigates.symm.trans found)
    rcases failsWith_bind.mp failed with unchosen | ⟨transition, between, drawn, failed⟩
    · exact .inl ((Navigator.makeChoice_failsWith seeded).mp (Playing.failsWith_draw.mp unchosen))
    obtain ⟨dice, chosen, rfl⟩ := Playing.draw_eq_ok drawn
    obtain ⟨next, reached, storable, plays, own⟩ := goesOn chosen
    exact .inr ⟨transition, dice, next, chosen, reached,
      (written_failsWith offers reached storable plays own (free dice)).mp failed⟩
  · intro blocked
    refine .inr ⟨_, navigates, failsWith_bind.mpr ?_⟩
    rcases blocked with unchosen | ⟨transition, dice, other, chosen, reached, stopped⟩
    · exact .inl (Playing.failsWith_draw.mpr ((Navigator.makeChoice_failsWith seeded).mpr unchosen))
    obtain ⟨next, reaches, storable, plays, own⟩ := goesOn chosen
    obtain rfl := GameState.Contents.state_injective (reached.symm.trans reaches)
    exact .inr ⟨_, _, Playing.draw_ok chosen,
      (written_failsWith offers reached storable plays own (free dice)).mpr stopped⟩

/-- Unless players are told that a choice is not available, it is only known things that block
it. -/
theorem choose_failsWith [Host] (offers : master.Offers library) (aware : now.IsAware)
    (held : world.saves.held id = some entry) (keeps : id.Keeps contents entry)
    (inPlay : contents.InPlay library) :
    FailsWith (master.choose now (.text id.text) index) world failure ∧
      failure.isUnavailableChoice = false ↔
        id.Blocks contents ⟨library.source, master.predicates⟩ master.generator now index world.dice
          failure := by
  by_cases sized : contents.Sized
  · rw [choose_sized offers aware held keeps inPlay sized]
    let navigator : Navigator := ⟨library.source, master.predicates⟩
    have refusable : navigator.foretellChoice now contents.sorted.state index = .error failure ∧
        failure.isUnavailableChoice = false ↔ navigator.Escapes contents.sorted.state index failure :=
      inPlay.sorted.refused_iff offers.linked (sized.valid keeps.storable)
    constructor
    · rintro ⟨refused | ⟨_, _, _, chosen, reached, refuses | ⟨written, rfl, jammed⟩⟩, untold⟩
      · exact .choice sized (refusable.mp ⟨refused, untold⟩)
      · exact .writing sized chosen reached refuses
      · exact .showing sized chosen reached written jammed
    · intro blocks
      cases blocks with
      | large large => exact absurd sized large
      | choice _ escapes =>
        obtain ⟨refused, untold⟩ := refusable.mpr escapes
        exact ⟨.inl refused, untold⟩
      | writing _ chosen reached refuses =>
        exact ⟨.inr ⟨_, _, _, chosen, reached, .inl refuses⟩, refuses.untold⟩
      | showing _ chosen reached written jammed =>
        exact ⟨.inr ⟨_, _, _, chosen, reached, .inr ⟨written, rfl, jammed⟩⟩, rfl⟩
  · rw [choose_large held keeps sized]
    constructor
    · rintro ⟨rfl, _⟩
      exact .large sized
    · intro blocks
      cases blocks with
      | large _ => exact ⟨rfl, rfl⟩
      | choice other => exact absurd other sized
      | writing other => exact absurd other sized
      | showing other => exact absurd other sized

/-- A view of a game that some save holds. -/
def Shows (store : SaveStore) (view : GameView) : Prop :=
  ∃ (id : SaveId) (entry : Entry), view.saveId = .text id.text ∧ store.held id = some entry

theorem Shows.of_same [Host] {store other : SaveStore} (shows : Shows store view)
    (same : other.SameSaves store) : Shows other view := by
  obtain ⟨id, entry, named, held⟩ := shows
  exact ⟨id, entry, named, (same id).1.trans held⟩

theorem advance_plays [Host] (offers : master.Offers library) (aware : now.IsAware)
    (inPlay : world.saves.InPlay library) {transition : Transition}
    (ok : master.advance now (.text id.text) index world = .ok transition after) :
    ∃ (own : SaveId) (next : GameState.Contents) (entry : Entry), transition.state = next.state ∧
      own.Keeps next entry ∧ next.InPlay library ∧ after.saves = world.saves.put own.fileName entry := by
  obtain ⟨own, next, entry, asked, reached, keeps, put⟩ :=
    advance_keeps offers.hasPlain inPlay.own aware ok
  obtain ⟨_, state, source, _, _, named, found, stories, taken, _⟩ := advance_eq_ok ok
  obtain rfl := Except.ok.inj (asked.symm.trans named)
  obtain rfl := Except.ok.inj (offers.stories.symm.trans stories)
  obtain ⟨former, held⟩ := SaveStore.held_of_load found
  obtain ⟨contents, kept, plays⟩ := inPlay own former held
  obtain ⟨_, rfl⟩ := (SaveStore.load_kept held kept state).mp found
  exact ⟨own, next, entry, reached, keeps, plays.sorted.taken offers.linked taken reached, put⟩

theorem choose_keeps [Host] (offers : master.Offers library) (aware : now.IsAware)
    (inPlay : world.saves.InPlay library) {transition : Transition}
    (ok : master.choose now (.text id.text) index world = .ok (transition, view) after) :
    after.saves.InPlay library ∧ Shows after.saves view := by
  obtain ⟨advanced, shown⟩ := choose_eq_ok ok
  obtain ⟨own, next, entry, reached, keeps, plays, put⟩ := advance_plays offers aware inPlay advanced
  refine ⟨put ▸ inPlay.put ⟨next, keeps, plays⟩, own, entry, ?_, put ▸ SaveStore.held_put⟩
  rw [view_saveId shown, reached]
  exact keeps.named

theorem choose_spares [Host] (offers : master.Offers library) (aware : now.IsAware)
    (inPlay : world.saves.InPlay library)
    (failed : master.choose now (.text id.text) index world = .error failure after)
    (told : failure.isUnavailableChoice = true) : after.saves.SameSaves world.saves := by
  rcases choose_eq_error_iff.mp failed with unadvanced | ⟨transition, advanced, unseen⟩
  · exact advance_eq_error unadvanced
  obtain ⟨_, next, _, reached, keeps, plays, _⟩ := advance_plays offers aware inPlay advanced
  rw [reached] at unseen
  obtain ⟨rfl, _⟩ :=
    (plays.view_eq_error offers.stories offers.linked keeps.storable.toSound.keyed).mp unseen
  cases told

section
variable {story : Story} {player name seed : String}

theorem establish_plays [Host] (offers : master.Offers library)
    (found : library.story (.text story.id) = .ok story) (aware : now.IsAware)
    (named : Text.isPlain player = true) (seeded : Text.isPlain seed = true) {state : GameState}
    (ok : master.establish now (.text player) (.text story.id) (.text name) (.text seed) .null false
      world = .ok state after) :
    ∃ (own : SaveId) (next : GameState.Contents) (entry : Entry), state = next.state ∧
      own.Keeps next entry ∧ next.InPlay library ∧ after.saves = world.saves.put own.fileName entry := by
  have fair : Request.IsFair (.start now (.text player) (.text story.id) (.text name) (.text seed)
      .null false) := ⟨aware, named, .inr ⟨seed, rfl, seeded⟩, .inl rfl, rfl⟩
  obtain ⟨own, next, entry, _, reached, keeps, put⟩ := establish_keeps offers.hasPlain fair ok
  obtain ⟨start, _, _, started, _, made, _⟩ := establish_eq_ok ok
  obtain rfl := Except.ok.inj (started.symm.trans (startNode_of_story offers.stories found))
  have new : (GameState.Contents.fresh now player story.id name story.start seed).state = state :=
    Except.ok.inj made
  obtain rfl := GameState.Contents.state_injective (new.trans reached)
  exact ⟨own, _, entry, reached, keeps, .fresh found, put⟩

theorem start_failsWith [Host] (offers : master.Offers library)
    (found : library.story (.text story.id) = .ok story) (aware : now.IsAware)
    (named : Text.IsName player) (seeded : Text.isPlain seed = true)
    (titled : ∀ id : SaveId, id.text = name → story.id ≠ "") (inPlay : world.saves.InPlay library) :
    FailsWith (master.start now (.text player) (.text story.id) (.text name) (.text seed) .null false)
      world failure ↔ world.saves.Rejects name failure ∨ failure = .fault .badValue ∧
        ∃ (contents : GameState.Contents) (after : World σ),
          master.establish now (.text player) (.text story.id) (.text name) (.text seed) .null false
            world = .ok contents.state after ∧
          Navigator.Jammed ⟨library.source, master.predicates⟩ contents := by
  have worded := offers.plain _ (Library.story_eq_ok found)
  rw [start_eq, ← establish_failsWith offers.stories found inPlay.own fun id same =>
    fresh_storable aware named ⟨titled id same, worded.id⟩ worded.start seeded]
  refine failsWith_bind.trans (or_congr_right ⟨?_, ?_⟩)
  · rintro ⟨state, between, established, unseen⟩
    obtain ⟨_, next, _, rfl, keeps, plays, _⟩ :=
      establish_plays offers found aware named.plain seeded established
    obtain ⟨rfl, jammed⟩ := (plays.view_eq_error offers.stories offers.linked
      keeps.storable.toSound.keyed).mp (failsWith_lift.mp unseen)
    exact ⟨rfl, next, between, established, jammed⟩
  · rintro ⟨rfl, contents, after, established, jammed⟩
    obtain ⟨_, next, _, same, keeps, plays, _⟩ :=
      establish_plays offers found aware named.plain seeded established
    obtain rfl := GameState.Contents.state_injective same
    refine ⟨_, after, established, failsWith_lift.mpr ?_⟩
    exact (plays.view_eq_error offers.stories offers.linked keeps.storable.toSound.keyed).mpr
      ⟨rfl, jammed⟩

theorem start_keeps [Host] (offers : master.Offers library)
    (found : library.story (.text story.id) = .ok story) (aware : now.IsAware)
    (named : Text.isPlain player = true) (seeded : Text.isPlain seed = true)
    (inPlay : world.saves.InPlay library)
    (ok : master.start now (.text player) (.text story.id) (.text name) (.text seed) .null false
      world = .ok view after) : after.saves.InPlay library ∧ Shows after.saves view := by
  rw [start_eq] at ok
  obtain ⟨state, between, established, showing⟩ := draw_bind_eq_ok.mp ok
  obtain ⟨shown, rfl⟩ := draw_lift_eq_ok.mp showing
  obtain ⟨own, next, entry, rfl, keeps, plays, put⟩ :=
    establish_plays offers found aware named seeded established
  refine ⟨put ▸ inPlay.put ⟨next, keeps, plays⟩, own, entry, ?_, put ▸ SaveStore.held_put⟩
  exact (view_saveId shown).trans keeps.named

end

/-- A game that can be loaded is shown, unless a condition jams where it stands. -/
theorem resume_failsWith [Host] (offers : master.Offers library) (inPlay : world.saves.InPlay library)
    {state : GameState} (found : world.saves.load id = .ok state) :
    FailsWith (master.resume (.text id.text)) world failure ↔ failure = .fault .badValue ∧
      ∃ contents : GameState.Contents, state = contents.state ∧
        Navigator.Jammed ⟨library.source, master.predicates⟩ contents := by
  obtain ⟨entry, held⟩ := SaveStore.held_of_load found
  obtain ⟨contents, keeps, plays⟩ := inPlay id entry held
  obtain ⟨_, rfl⟩ := (SaveStore.load_kept held keeps state).mp found
  unfold FailsWith
  simp only [resume_of_load id.ofValue_text found, Playing.outcome, draw_lift_eq_error,
    exists_and_left, exists_eq, and_true, plays.sorted.view_eq_error offers.stories offers.linked
      keeps.storable.sorted.toSound.keyed]
  refine and_congr_right fun _ => ⟨fun jammed => ⟨_, rfl, jammed⟩, ?_⟩
  rintro ⟨other, same, jammed⟩
  exact GameState.Contents.state_injective same ▸ jammed

theorem resume_keeps [Host] (inPlay : world.saves.InPlay library)
    (ok : master.resume (.text id.text) world = .ok view after) :
    after = world ∧ Shows world.saves view := by
  obtain ⟨_, state, asked, found, shown, rfl⟩ := resume_eq_ok.mp ok
  obtain rfl := Except.ok.inj (id.ofValue_text.symm.trans asked)
  obtain ⟨entry, held⟩ := SaveStore.held_of_load found
  obtain ⟨contents, keeps, _⟩ := inPlay id entry held
  obtain ⟨_, rfl⟩ := (SaveStore.load_kept held keeps state).mp found
  exact ⟨rfl, id, entry, (view_saveId shown).trans keeps.named, held⟩

end GameMaster

namespace SaveStore
variable {library : Library} {store : SaveStore} {id : SaveId} {failure : Failure}

theorem summary?_of_load [Host] {state : GameState} (found : store.load id = .ok state) :
    store.summary? none none id = .ok (some ⟨id, .ok state⟩) := by
  rw [summary?, found]
  rfl

/-- A list of games that were written here only fails for a number that no double can hold. -/
theorem Own.summaries_eq_error [Host] (own : store.Own) : store.summaries none none = .error failure ↔
    failure = .fault .tooLarge ∧ ∃ (id : SaveId) (entry : Entry) (contents : GameState.Contents),
      store.held id = some entry ∧ id.Keeps contents entry ∧ ¬ contents.Sized := by
  have stops {id : SaveId} {failure : Failure} (member : id ∈ store.ids)
      (failed : store.summary? none none id = .error failure) : failure = .fault .tooLarge ∧
        ∃ (entry : Entry) (contents : GameState.Contents),
          store.held id = some entry ∧ id.Keeps contents entry ∧ ¬ contents.Sized := by
    obtain ⟨entry, held⟩ := mem_ids.mp member
    obtain ⟨contents, keeps⟩ := own id entry held
    by_cases sized : contents.Sized
    · rw [summary?_of_load ((load_kept held keeps _).mpr ⟨sized, rfl⟩)] at failed
      cases failed
    · rw [summary?, load_oversized held keeps sized] at failed
      cases failed
      exact ⟨rfl, entry, contents, held, keeps, sized⟩
  constructor
  · intro failed
    have failed := (bind_eq_error.mp failed).resolve_right (by rintro ⟨_, _, ⟨⟩⟩)
    obtain ⟨before, id, after, ids, _, stopped⟩ := mapM_eq_error.mp failed
    obtain ⟨large, entry, contents, found⟩ := stops (ids ▸ by simp) stopped
    exact ⟨large, id, entry, contents, found⟩
  · rintro ⟨rfl, id, entry, contents, held, keeps, large⟩
    refine bind_eq_error.mpr (.inl ?_)
    cases listed : store.ids.mapM (store.summary? none none) with
    | ok summaries =>
      obtain ⟨_, _, read⟩ := mapM_result listed (mem_ids.mpr ⟨entry, held⟩)
      rw [summary?, load_oversized held keeps large] at read
      cases read
    | error failure =>
      obtain ⟨before, other, after, ids, _, stopped⟩ := mapM_eq_error.mp listed
      rw [(stops (ids ▸ by simp) stopped).1]

theorem load_of_summaries [Host] {all : List SaveSummary}
    (listed : store.summaries none none = .ok all)
    {summary : SaveSummary} (member : summary ∈ all) (sound : summary.isCorrupt = false) :
    ∃ state, store.load summary.id = .ok state := by
  obtain ⟨found, read, same⟩ := bind_eq_ok.mp listed
  obtain rfl := pure_eq_ok.mp same
  obtain ⟨_, inside, rfl⟩ := List.mem_filterMap.mp member
  obtain ⟨id, _, read⟩ := mapM_source read inside
  unfold summary? at read
  split at read
  · rename_i state found
    cases read
    exact ⟨state, found⟩
  · cases read
    cases sound
  · cases read
    cases sound
  · cases read

end SaveStore
end Gamebook
