import Gamebook.Proofs.Play.Starting
import Gamebook.Proofs.Save.Holding
import Gamebook.Proofs.State.Stopping

/-!
What keeps a game from being written, and a new one from being started. Everything else about a new
game is as it should be, so its name alone decides.
-/
namespace Gamebook

/-- What keeps contents from being written to a save, in the order in which it comes up. -/
inductive SaveId.Refuses [Host] (id : SaveId) (contents : GameState.Contents) : Failure → Prop
  | flags (deep : Host.copying < Value.entriesDepth contents.flags) :
      Refuses id contents (.fault .tooDeep)
  | name (shallow : Value.entriesDepth contents.flags ≤ Host.copying)
      (long : Host.drafting < id.text.length + SaveStore.draftMarks) :
      Refuses id contents (.fault .nameTooLong)
  | numeral (shallow : Value.entriesDepth contents.flags ≤ Host.copying)
      (short : id.text.length + SaveStore.draftMarks ≤ Host.drafting)
      (long : (Value.object contents.document).isWritable = false) :
      Refuses id contents (.fault .badValue)

theorem SaveId.Refuses.untold [Host] {id : SaveId} {contents : GameState.Contents} {failure : Failure}
    (refuses : id.Refuses contents failure) : failure.isUnavailableChoice = false := by
  cases refuses <;> rfl

theorem SaveId.Refuses.split [Host] {id : SaveId} {contents : GameState.Contents} {failure : Failure}
    (refuses : id.Refuses contents failure) {store : SaveStore}
    (free : store.held id ≠ some .directory) :
    Host.copying < Value.entriesDepth contents.flags ∧ failure = .fault .tooDeep ∨
      Value.entriesDepth contents.flags ≤ Host.copying ∧
        (store.write id (.object contents.document)).2 = .error failure := by
  cases refuses with
  | flags deep => exact .inl ⟨deep, rfl⟩
  | name shallow long => exact .inr ⟨shallow, (SaveStore.write_eq_error free).mpr (.inl ⟨long, rfl⟩)⟩
  | numeral shallow short long =>
    exact .inr ⟨shallow, (SaveStore.write_eq_error free).mpr (.inr ⟨short, long, rfl⟩)⟩

theorem GameState.Contents.Storable.isNamed {contents : GameState.Contents}
    (storable : contents.Storable) : Snapshot.isNamed contents.state = true := by
  have named {dict : Dict} (texts : ∀ entry ∈ dict, entry.1.text?.isSome = true) :
      Snapshot.isNamedTable (.known dict) = true := List.all_eq_true.mpr texts
  simp only [Snapshot.isNamed, Bool.and_eq_true]
  exact ⟨⟨⟨named fun entry member => (storable.stats entry member).1,
    named fun entry member => (storable.wallets entry member).1⟩,
    named fun entry member => (storable.inventory entry member).1⟩, named storable.flags⟩

theorem Playing.persist_failsWith [Host] {σ : Type} {world : World σ} {id : SaveId}
    {contents : GameState.Contents} (storable : contents.Storable) (own : contents.save = id.text)
    (free : world.saves.held id ≠ some .directory) {failure : Failure} :
    FailsWith (persist contents.state) world failure ↔ id.Refuses contents failure := by
  have timed : ∀ record ∈ contents.history, ∃ time, record.timestamp = .known time :=
    fun record member => (storable.history record member).time
  have asked : SaveId.ofValue contents.state.saveId = .ok id :=
    (congrArg (fun name => SaveId.ofValue (.text name)) own).trans id.ofValue_text
  constructor
  · intro failed
    rcases failsWith_lift_bind.mp failed with unwritten | ⟨document, written, failed⟩
    · obtain ⟨fault, sunk, rfl⟩ := Fault.lift_eq_error.mp unwritten
      obtain ⟨deep, rfl⟩ := (GameState.Contents.ofState_eq_error timed).mp sunk
      exact .flags deep
    obtain ⟨shallow, rfl⟩ := (GameState.Contents.ofState_eq_ok timed).mp (Fault.lift_eq_ok.mp written)
    rcases failsWith_lift_bind.mp failed with unnamed | ⟨_, named, failed⟩
    · cases asked.symm.trans unnamed
    obtain rfl := Except.ok.inj (asked.symm.trans named)
    obtain ⟨after, failed⟩ := failed
    have refused := (write_eq_error failed).1
    rw [storable.isNamed] at refused
    rcases (SaveStore.write_eq_error free).mp refused with ⟨long, rfl⟩ | ⟨short, long, rfl⟩
    · exact .name shallow long
    · exact .numeral shallow short long
  · intro refuses
    rcases refuses.split free with ⟨deep, rfl⟩ | ⟨shallow, refused⟩
    · have sunk := (GameState.Contents.ofState_eq_error timed).mpr ⟨deep, rfl⟩
      exact failsWith_lift_bind.mpr (.inl (Fault.lift_eq_error.mpr ⟨_, sunk, rfl⟩))
    · have written := (GameState.Contents.ofState_eq_ok timed).mpr ⟨shallow, rfl⟩
      refine failsWith_lift_bind.mpr (.inr ⟨_, Fault.lift_eq_ok.mpr written, ?_⟩)
      rw [← storable.isNamed] at refused
      exact failsWith_lift_bind.mpr (.inr ⟨id, asked, _, draw_lift_eq_error.mpr ⟨refused, rfl⟩⟩)

namespace GameState

/-- A new game under a name and with a seed. -/
def Contents.fresh (now : Timestamp) (player story save start seed : String) : Contents where
  player := player
  story := story
  save := save
  node := start
  visits := [.text start]
  history := []
  stats := defaultStats
  wallets := []
  inventory := []
  flags := []
  effects := []
  created := now
  updated := now
  seed := .text seed

variable {now : Timestamp} {player story save start seed : String}

theorem Contents.fresh_valid (named : player ≠ "") (titled : story ≠ "") (kept : save ≠ "")
    (starts : start ≠ "") : (Contents.fresh now player story save start seed).Valid where
  player := named
  story := titled
  save := kept
  node := starts
  stats := List.forall_mem_map.mpr fun _ _ => Value.isAtLeast_eq_ok.mpr
    ⟨Value.reaches_int (by decide), Value.sized_int.mpr (by decide +kernel)⟩
  wallets := nofun
  inventory := nofun
  types := nofun
  durations := nofun
  visited := .head _

theorem Contents.fresh_isWritable :
    (Value.object (Contents.fresh now player story save start seed).document).isWritable = true := by
  have version : (Value.int Snapshot.version).isWritable = true := by decide +kernel
  have stats : (Value.object (Dict.named defaultStats)).isWritable = true := by decide +kernel
  have none : (Value.object (Dict.named [])).isWritable = true := rfl
  simp only [Value.isWritable] at version stats none
  simp [fresh, document, Snapshot.optional, Value.isNull, Value.isWritable, Value.fieldsWritable,
    Value.allWritable, version, stats, none]

end GameState

/-- What keeps a game from being started under a name, in the order in which it comes up. -/
inductive SaveStore.Rejects [Host] (store : SaveStore) (name : String) : Failure → Prop
  | name (invalid : SaveId.isValid name.toList = false) : Rejects store name (.saveId (.text name))
  | taken {id : SaveId} {entry : Entry} (named : id.text = name)
      (held : store.held id = some entry) : Rejects store name (.saveExists name)
  | long {id : SaveId} (named : id.text = name)
      (long : Host.drafting < name.length + draftMarks) : Rejects store name (.fault .nameTooLong)

namespace GameMaster
variable {σ : Type} {master : GameMaster σ} {library : Library} {world : World σ} {now : Timestamp}
  {id : SaveId} {entry : Entry} {contents : GameState.Contents} {failure : Failure}

section
variable {story : Story} {player name seed : String}

theorem fresh_storable (aware : now.IsAware) (named : Text.IsName player)
    (titled : Text.IsName story.id) (starts : Text.IsName story.start)
    (seeded : Text.isPlain seed = true) :
    (GameState.Contents.fresh now player story.id id.text story.start seed).Storable := by
  have reaching : ∀ entry ∈ GameState.defaultStats, entry.1.text?.isSome = true ∧ entry.2.Reaches 1 :=
    List.forall_mem_map.mpr fun _ _ => ⟨rfl, Value.reaches_int (by decide)⟩
  exact .begun aware named titled ⟨id.filled, id.isPlain_text⟩ starts (.inr ⟨seed, rfl, seeded⟩)
    reaching GameState.defaultStats_plain

/-- Once a name is found to be free, a game is started under it unless it is too long. -/
theorem found_failsWith [Host]
    (storable : (GameState.Contents.fresh now player story.id id.text story.start seed).Storable)
    (free : world.saves.held id ≠ some .directory) :
    FailsWith (do
      let state ← Playing.outcome (newState now (.text player) (.text story.id) (.text story.start)
        (.text id.text) (.text seed) .null)
      Playing.outcome state.validate
      Playing.persist state
      return state : Playing σ GameState) world failure ↔
        Host.drafting < id.text.length + SaveStore.draftMarks ∧
          failure = .fault .nameTooLong := by
  have accepted : (GameState.Contents.fresh now player story.id id.text story.start
      seed).state.validate = .ok () :=
    GameState.validate_eq_ok.mpr ⟨_, rfl, GameState.Contents.fresh_valid storable.player.filled
      storable.story.filled storable.save.filled storable.node.filled⟩
  constructor
  · intro failed
    rcases failsWith_lift_bind.mp failed with ⟨⟨⟩⟩ | ⟨_, ⟨⟩, failed⟩
    rcases failsWith_lift_bind.mp failed with refused | ⟨_, _, failed⟩
    · cases accepted.symm.trans refused
    rcases failsWith_bind.mp failed with unwritten | ⟨_, _, _, never⟩
    · cases (Playing.persist_failsWith storable rfl free).mp unwritten with
      | flags deep => exact absurd deep (Nat.not_lt_zero _)
      | name shallow long => exact ⟨long, rfl⟩
      | numeral shallow short long => cases GameState.Contents.fresh_isWritable.symm.trans long
    · exact absurd never (failsWith_pure _)
  · rintro ⟨long, rfl⟩
    refine failsWith_lift_bind.mpr (.inr ⟨_, rfl, failsWith_lift_bind.mpr (.inr ⟨_, accepted, ?_⟩)⟩)
    refine failsWith_bind.mpr (.inl ((Playing.persist_failsWith storable rfl free).mpr ?_))
    exact .name (Nat.zero_le _) long

theorem startNode_of_story (plays : master.stories = .ok library.source)
    (found : library.story (.text story.id) = .ok story) :
    master.startNode (.text story.id) = .ok (.text story.start) := by
  have begins : library.source.startNode (.text story.id) = .ok (.text story.start) :=
    Library.startNode_eq_ok.mpr ⟨story.id, story, rfl, found, rfl⟩
  exact bind_eq_ok.mpr ⟨_, plays, by rw [begins]⟩

theorem establish_failsWith [Host] (plays : master.stories = .ok library.source)
    (found : library.story (.text story.id) = .ok story) (own : world.saves.Own)
    (storable : ∀ id : SaveId, id.text = name →
      (GameState.Contents.fresh now player story.id id.text story.start seed).Storable) :
    FailsWith (master.establish now (.text player) (.text story.id) (.text name) (.text seed) .null
      false) world failure ↔ world.saves.Rejects name failure := by
  have starts := startNode_of_story plays found
  have free (id : SaveId) : world.saves.held id ≠ some .directory := by
    intro held
    obtain ⟨contents, keeps⟩ := own id _ held
    cases keeps.written
  constructor
  -- Each step of the call stops it for one cause, or has ruled that cause out for those that follow.
  · intro failed
    rcases failsWith_lift_bind.mp failed with unstarted | ⟨_, started, failed⟩
    · cases starts.symm.trans unstarted
    obtain rfl := Except.ok.inj (starts.symm.trans started)
    rcases failsWith_lift_bind.mp failed with unnamed | ⟨id, asked, failed⟩
    · obtain ⟨invalid, rfl⟩ := SaveId.ofValue_eq_error.mp unnamed
      exact .name invalid
    obtain rfl := Value.text.inj (SaveId.ofValue_eq_ok asked)
    rcases failsWith_bind.mp failed with ⟨_, ⟨⟩⟩ | ⟨_, _, ⟨⟩, failed⟩
    rcases own.contains_cases id with ⟨entry, held, taken⟩ | ⟨_, open_ | ⟨long, refused⟩⟩
    · rw [taken] at failed
      rcases failsWith_lift_bind.mp failed with ⟨⟨⟩⟩ | ⟨_, ⟨⟩, failed⟩
      rcases failsWith_bind.mp failed with thrown | ⟨_, _, ⟨⟩, _⟩
      obtain rfl := failsWith_throw.mp thrown
      exact .taken rfl held
    · rw [open_] at failed
      rcases failsWith_lift_bind.mp failed with ⟨⟨⟩⟩ | ⟨_, ⟨⟩, failed⟩
      obtain ⟨long, rfl⟩ := (found_failsWith (storable id rfl) (free id)).mp failed
      exact .long rfl long
    · rw [refused] at failed
      rcases failsWith_lift_bind.mp failed with ⟨⟨⟩⟩ | ⟨_, ⟨⟩, _⟩
      exact .long rfl long
  · intro rejects
    refine failsWith_lift_bind.mpr (.inr ⟨_, starts, failsWith_lift_bind.mpr ?_⟩)
    cases rejects with
    | name invalid => exact .inl (SaveId.ofValue_eq_error.mpr ⟨invalid, rfl⟩)
    | @taken id entry named held =>
      subst named
      refine .inr ⟨id, id.ofValue_text, failsWith_bind.mpr (.inr ⟨_, _, rfl, ?_⟩)⟩
      rcases own.contains_cases id with ⟨_, _, taken⟩ | ⟨none, _⟩
      · refine failsWith_lift_bind.mpr (.inr ⟨true, taken, failsWith_bind.mpr (.inl ?_)⟩)
        exact failsWith_throw.mpr rfl
      · cases held.symm.trans none
    | @long id named long =>
      subst named
      refine .inr ⟨id, id.ofValue_text, failsWith_bind.mpr (.inr ⟨_, _, rfl, ?_⟩)⟩
      rcases own.contains_cases id with ⟨entry, held, _⟩ | ⟨_, open_ | ⟨_, refused⟩⟩
      · obtain ⟨contents, keeps⟩ := own id entry held
        exact absurd long (Nat.not_lt.mpr keeps.short)
      · refine failsWith_lift_bind.mpr (.inr ⟨false, open_, ?_⟩)
        exact (found_failsWith (storable id rfl) (free id)).mpr ⟨long, rfl⟩
      · exact failsWith_lift_bind.mpr (.inl refused)

end
end GameMaster

end Gamebook
