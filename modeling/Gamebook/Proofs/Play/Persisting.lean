import Gamebook.Proofs.Play.Path
import Gamebook.Proofs.Play.Showing
import Gamebook.Proofs.Save.Store

/-!
What the calls of a game do to its saves. A call writes at most one save; what fails before that
leaves every save as it was, and what can fail after it is only to show the state that was written.
-/
namespace Gamebook
namespace Playing
variable {σ α : Type} {world after : World σ}

variable {β : Type}

theorem get_bind {next : World σ → Playing σ α} : (get >>= next) world = next world world := rfl

theorem outcome_bind_eq_ok {result : Outcome α} {next : α → Playing σ β} {value : β} :
    (outcome result >>= next) world = .ok value after ↔
      ∃ found, result = .ok found ∧ next found world = .ok value after := by
  rw [draw_bind_eq_ok]
  constructor
  · rintro ⟨found, between, here, rest⟩
    obtain ⟨same, rfl⟩ := draw_lift_eq_ok.mp here
    exact ⟨found, same, rest⟩
  · rintro ⟨found, here, rest⟩
    exact ⟨found, world, draw_lift_eq_ok.mpr ⟨here, rfl⟩, rest⟩

theorem outcome_bind_eq_error {result : Outcome α} {next : α → Playing σ β} {failure : Failure} :
    (outcome result >>= next) world = .error failure after ↔
      (result = .error failure ∧ after = world) ∨
      ∃ found, result = .ok found ∧ next found world = .error failure after := by
  rw [draw_bind_eq_error, outcome, draw_lift_eq_error]
  refine or_congr_right ?_
  constructor
  · rintro ⟨found, between, here, rest⟩
    obtain ⟨same, rfl⟩ := draw_lift_eq_ok.mp here
    exact ⟨found, same, rest⟩
  · rintro ⟨found, here, rest⟩
    exact ⟨found, world, draw_lift_eq_ok.mpr ⟨here, rfl⟩, rest⟩

theorem load_eq_ok [Host] {id : SaveId} {state : GameState} :
    load id world = .ok state after ↔ world.saves.load id = .ok state ∧ after = world :=
  draw_lift_eq_ok

theorem load_eq_error [Host] {id : SaveId} {failure : Failure} :
    load id world = .error failure after ↔ world.saves.load id = .error failure ∧ after = world :=
  draw_lift_eq_error

/-- With the save there, a call goes on with the state in it. -/
theorem loaded_bind [Host] {save : Value} {id : SaveId} {state : GameState}
    {next : GameState → Playing σ α}
    (asked : SaveId.ofValue save = .ok id) (found : world.saves.load id = .ok state) :
    (do next (← load (← outcome (SaveId.ofValue save)))) world = next state world := by
  have loaded : load id world = .ok state world := load_eq_ok.mpr ⟨found, rfl⟩
  rw [asked]
  show (load id >>= next) world = next state world
  simp only [bind, EStateM.bind, loaded]

theorem draw_eq_ok {drawing : Drawing σ α} {value : α} (ok : draw drawing world = .ok value after) :
    ∃ dice, drawing world.dice = .ok value dice ∧ after = { world with dice := dice } := by
  unfold draw at ok
  split at ok
  · rename_i found dice drawn
    cases ok
    exact ⟨dice, drawn, rfl⟩
  · cases ok

theorem draw_eq_error {drawing : Drawing σ α} {failure : Failure}
    (failed : draw drawing world = .error failure after) : after.saves = world.saves := by
  unfold draw at failed
  split at failed
  · cases failed
  · cases failed
    rfl

theorem draw_ok {drawing : Drawing σ α} {value : α} {dice : σ}
    (drawn : drawing world.dice = .ok value dice) :
    draw drawing world = .ok value { world with dice := dice } := by
  rw [draw, drawn]

theorem failsWith_draw {drawing : Drawing σ α} {failure : Failure} :
    FailsWith (draw drawing) world failure ↔ FailsWith drawing world.dice failure := by
  unfold FailsWith draw
  cases drawing world.dice with
  | ok value dice => exact ⟨by rintro ⟨_, ⟨⟩⟩, by rintro ⟨_, ⟨⟩⟩⟩
  | error problem dice =>
    exact ⟨by rintro ⟨_, ⟨⟩⟩; exact ⟨dice, rfl⟩, by rintro ⟨_, ⟨⟩⟩; exact ⟨_, rfl⟩⟩

theorem write_eq_ok [Host] {id : SaveId} {document : Value} {isSortable : Bool} {done : Unit}
    (ok : write id document isSortable world = .ok done after) :
    isSortable = true ∧ document.isWritable = true ∧
      id.text.length + SaveStore.draftMarks ≤ Host.drafting ∧
      after = { world with
        saves := world.saves.put id.fileName (.text (Json.write .file document)) } := by
  obtain ⟨stored, rfl⟩ := draw_lift_eq_ok.mp ok
  obtain ⟨put, sortable, writable, short⟩ := SaveStore.write_eq_ok stored
  exact ⟨sortable, writable, short, by rw [put]⟩

theorem write_eq_error [Host] {id : SaveId} {document : Value} {isSortable : Bool} {failure : Failure}
    (failed : write id document isSortable world = .error failure after) :
    (world.saves.write id document isSortable).2 = .error failure ∧
      after.saves.SameSaves world.saves := by
  obtain ⟨refused, rfl⟩ := draw_lift_eq_error.mp failed
  exact ⟨refused, SaveStore.write_spares refused⟩

theorem persist_eq_ok [Host] {state : GameState} {done : Unit}
    (ok : persist state world = .ok done after) :
    ∃ document id, Snapshot.ofState state = .ok document ∧ SaveId.ofValue state.saveId = .ok id ∧
      Snapshot.isNamed state = true ∧ (Value.object document).isWritable = true ∧
      id.text.length + SaveStore.draftMarks ≤ Host.drafting ∧
      after = { world with
        saves := world.saves.put id.fileName (.text (Json.write .file (.object document))) } := by
  obtain ⟨document, written, unnamed⟩ := outcome_bind_eq_ok.mp ok
  obtain ⟨id, named, stored⟩ := outcome_bind_eq_ok.mp unnamed
  obtain ⟨keys, writable, short, rfl⟩ := write_eq_ok stored
  exact ⟨document, id, Fault.lift_eq_ok.mp written, named, keys, writable, short, rfl⟩

theorem persist_eq_error [Host] {state : GameState} {failure : Failure}
    (failed : persist state world = .error failure after) : after.saves.SameSaves world.saves := by
  rcases outcome_bind_eq_error.mp failed with ⟨_, rfl⟩ | ⟨document, _, unnamed⟩
  · exact .refl _
  rcases outcome_bind_eq_error.mp unnamed with ⟨_, rfl⟩ | ⟨id, _, unwritten⟩
  · exact .refl _
  exact (write_eq_error unwritten).2

theorem delete_eq_error [Host] {save : Value} {failure : Failure}
    (failed : delete save world = .error failure after) : after = world := by
  rcases outcome_bind_eq_error.mp failed with ⟨_, rfl⟩ | ⟨id, _, undeleted⟩
  · rfl
  rw [get_bind] at undeleted
  rcases outcome_bind_eq_error.mp undeleted with ⟨_, rfl⟩ | ⟨saves, _, missing⟩
  · rfl
  split at missing <;> cases missing
  rfl

end Playing

namespace GameMaster
variable {σ : Type} (master : GameMaster σ)

/-- What taking a choice in a saved game does before there is anything to show. -/
def advance [Host] (now : Timestamp) (save index : Value) : Playing σ Transition := do
  let state ← Playing.load (← Playing.outcome (SaveId.ofValue save))
  let navigator ← Playing.outcome master.navigator
  let transition ← Playing.draw (navigator.makeChoice master.generator now state index)
  Playing.persist transition.state
  return transition

/-- What starting a game does before there is anything to show. -/
def establish [Host] (now : Timestamp) (player story save seed stats : Value) (overwrite : Bool) :
    Playing σ GameState := do
  let start ← Playing.outcome (master.startNode story)
  let id ← Playing.outcome (SaveId.ofValue save)
  let isTaken ← Playing.outcome ((← get).saves.contains id)
  if isTaken && !overwrite then throw (.saveExists id.text)
  let state ← Playing.outcome (newState now player story start save seed stats)
  Playing.outcome state.validate
  Playing.persist state
  return state

variable {master} {now : Timestamp} {save index : Value} {world after : World σ}

theorem choose_eq [Host] : master.choose now save index = (do
    let transition ← master.advance now save index
    return (transition, ← Playing.outcome (master.view transition.state))) := by
  simp [choose, advance]

theorem advance_eq_error [Host] {failure : Failure}
    (failed : master.advance now save index world = .error failure after) :
    after.saves.SameSaves world.saves := by
  rcases Playing.outcome_bind_eq_error.mp failed with ⟨_, rfl⟩ | ⟨id, _, unloaded⟩
  · exact .refl _
  rcases draw_bind_eq_error.mp unloaded with first | ⟨state, between, loaded, unread⟩
  · obtain ⟨_, rfl⟩ := Playing.load_eq_error.mp first
    exact .refl _
  obtain ⟨_, rfl⟩ := Playing.load_eq_ok.mp loaded
  rcases Playing.outcome_bind_eq_error.mp unread with ⟨_, rfl⟩ | ⟨navigator, _, undrawn⟩
  · exact .refl _
  rcases draw_bind_eq_error.mp undrawn with second | ⟨transition, drawn, taken, unwritten⟩
  · rw [Playing.draw_eq_error second]
    exact .refl _
  obtain ⟨dice, _, rfl⟩ := Playing.draw_eq_ok taken
  rcases draw_bind_eq_error.mp unwritten with third | ⟨_, _, _, fourth⟩
  · have spared := Playing.persist_eq_error third
    exact spared
  · cases fourth

/-- What was written is the state that a choice led to from the one that the save held. -/
theorem advance_eq_ok [Host] {transition : Transition}
    (ok : master.advance now save index world = .ok transition after) :
    ∃ id state source document own, SaveId.ofValue save = .ok id ∧
      world.saves.load id = .ok state ∧ master.stories = .ok source ∧
      Navigator.Taken ⟨source, master.predicates⟩ now state index transition ∧
      Snapshot.ofState transition.state = .ok document ∧
      SaveId.ofValue transition.state.saveId = .ok own ∧
      Snapshot.isNamed transition.state = true ∧ (Value.object document).isWritable = true ∧
      own.text.length + SaveStore.draftMarks ≤ Host.drafting ∧
      after.saves = world.saves.put own.fileName (.text (Json.write .file (.object document))) := by
  obtain ⟨id, named, unloaded⟩ := Playing.outcome_bind_eq_ok.mp ok
  obtain ⟨state, between, loaded, unread⟩ := draw_bind_eq_ok.mp unloaded
  obtain ⟨found, rfl⟩ := Playing.load_eq_ok.mp loaded
  obtain ⟨navigator, navigates, undrawn⟩ := Playing.outcome_bind_eq_ok.mp unread
  obtain ⟨source, stories, same⟩ := bind_eq_ok.mp navigates
  obtain rfl := pure_eq_ok.mp same
  obtain ⟨made, drawn, taken, unwritten⟩ := draw_bind_eq_ok.mp undrawn
  obtain ⟨dice, chosen, rfl⟩ := Playing.draw_eq_ok taken
  obtain ⟨_, written, persisted, last⟩ := draw_bind_eq_ok.mp unwritten
  obtain ⟨rfl, rfl⟩ := draw_pure_eq_ok.mp last
  obtain ⟨document, own, documented, owned, keys, writable, short, rfl⟩ :=
    Playing.persist_eq_ok persisted
  exact ⟨id, state, source, document, own, named, found, stories,
    Navigator.makeChoice_taken chosen, documented, owned, keys, writable, short, rfl⟩

theorem start_eq [Host] {player story seed stats : Value} {overwrite : Bool} :
    master.start now player story save seed stats overwrite = (do
      let state ← master.establish now player story save seed stats overwrite
      Playing.outcome (master.view state)) := by
  simp only [start, establish, bind_assoc]
  refine bind_congr fun first => bind_congr fun id => bind_congr fun current =>
    bind_congr fun isTaken => ?_
  split <;> simp

theorem establish_eq_error [Host] {player story seed stats : Value} {overwrite : Bool}
    {failure : Failure}
    (failed : master.establish now player story save seed stats overwrite world =
      .error failure after) : after.saves.SameSaves world.saves := by
  rcases Playing.outcome_bind_eq_error.mp failed with ⟨_, rfl⟩ | ⟨start, _, failed⟩
  · exact .refl _
  rcases Playing.outcome_bind_eq_error.mp failed with ⟨_, rfl⟩ | ⟨id, _, failed⟩
  · exact .refl _
  rw [Playing.get_bind] at failed
  rcases Playing.outcome_bind_eq_error.mp failed with ⟨_, rfl⟩ | ⟨isTaken, _, failed⟩
  · exact .refl _
  split at failed
  · cases failed
    exact .refl _
  rcases Playing.outcome_bind_eq_error.mp failed with ⟨_, rfl⟩ | ⟨state, _, failed⟩
  · exact .refl _
  rcases Playing.outcome_bind_eq_error.mp failed with ⟨_, rfl⟩ | ⟨_, _, failed⟩
  · exact .refl _
  rcases draw_bind_eq_error.mp failed with unwritten | ⟨_, _, _, never⟩
  · exact Playing.persist_eq_error unwritten
  · cases never

/-- A new game has the stats that are usual, with those that were given written over them. -/
theorem newState_eq_ok {player story start seed stats : Value} {state : GameState}
    (ok : newState now player story start save seed stats = .ok state) :
    ∃ dict, state = { GameState.create now player story start save seed with stats := .known dict } ∧
      (dict = GameState.defaultStats ∨ ∃ given, stats.asDict = .ok given ∧
        dict = GameState.defaultStats.update given) := by
  unfold newState at ok
  dsimp only at ok
  split at ok
  · obtain ⟨usual, known, ok⟩ := bind_eq_ok.mp (Fault.lift_eq_ok.mp ok)
    obtain ⟨given, read, ok⟩ := bind_eq_ok.mp ok
    cases known
    obtain rfl := pure_eq_ok.mp ok
    exact ⟨_, rfl, .inr ⟨given, read, rfl⟩⟩
  · cases ok
    exact ⟨_, rfl, .inl rfl⟩

theorem establish_eq_ok [Host] {player story seed stats : Value} {overwrite : Bool}
    {state : GameState}
    (ok : master.establish now player story save seed stats overwrite world = .ok state after) :
    ∃ start id document, master.startNode story = .ok start ∧ SaveId.ofValue save = .ok id ∧
      newState now player story start save seed stats = .ok state ∧ state.validate = .ok () ∧
      Snapshot.ofState state = .ok document ∧ Snapshot.isNamed state = true ∧
      (Value.object document).isWritable = true ∧
      id.text.length + SaveStore.draftMarks ≤ Host.drafting ∧
      after = { world with
        saves := world.saves.put id.fileName (.text (Json.write .file (.object document))) } := by
  obtain ⟨start, starts, ok⟩ := Playing.outcome_bind_eq_ok.mp ok
  obtain ⟨id, named, ok⟩ := Playing.outcome_bind_eq_ok.mp ok
  rw [Playing.get_bind] at ok
  obtain ⟨isTaken, _, ok⟩ := Playing.outcome_bind_eq_ok.mp ok
  split at ok
  · cases ok
  obtain ⟨made, fresh, ok⟩ := Playing.outcome_bind_eq_ok.mp ok
  obtain ⟨_, accepted, ok⟩ := Playing.outcome_bind_eq_ok.mp ok
  obtain ⟨_, written, persisted, last⟩ := draw_bind_eq_ok.mp ok
  obtain ⟨rfl, rfl⟩ := draw_pure_eq_ok.mp last
  obtain ⟨document, own, documented, owned, keys, writable, short, same⟩ :=
    Playing.persist_eq_ok persisted
  have asked : made.saveId = save := by
    obtain ⟨stats, rfl, _⟩ := newState_eq_ok fresh
    rfl
  obtain rfl : id = own := Except.ok.inj (named.symm.trans (asked ▸ owned))
  exact ⟨start, id, document, starts, named, fresh, accepted, documented, keys, writable, short, same⟩

/-- The stories, if they can be read at all, are those of an accepted document. -/
def HasLoaded (master : GameMaster σ) : Prop := ∀ source, master.stories = .ok source →
  ∃ document library, Library.ofDocument document = .ok library ∧ source = library.source

theorem newState_fresh {player story start seed stats : Value} {state : GameState}
    (ok : newState now player story start save seed stats = .ok state) : state.Fresh story start := by
  unfold newState at ok
  dsimp only at ok
  split at ok
  · exact .written now player save seed stats state (Fault.lift_eq_ok.mp ok)
  · cases ok
    exact .usual now player save seed

theorem startNode_eq_ok {story start : Value} (ok : master.startNode story = .ok start) :
    ∃ source, master.stories = .ok source ∧ source.startNode story = .ok start := by
  obtain ⟨source, stories, rest⟩ := bind_eq_ok.mp ok
  refine ⟨source, stories, ?_⟩
  split at rest
  · exact absurd rest Failure.showing_ne_ok
  · exact rest

/-- A new game stands on a node that is there, and its progress is known. -/
theorem fresh_stands {library : Library} {contents : GameState.Contents} {story start : Value}
    (linked : library.Linked) (begins : library.source.startNode story = .ok start)
    (fresh : contents.state.Fresh story start) : contents.Keyed ∧
      (∃ node, library.source.node? contents.node = some node) ∧
      Navigator.KnowsProgress library contents := by
  obtain ⟨name, known, rfl, found, rfl⟩ := Library.startNode_eq_ok.mp begins
  have listed := Library.story_eq_ok found
  have closed := linked.closed _ listed
  obtain ⟨storyIs, nodeIs, visitsAre, _, _, _, _, _, effectsAre⟩ := fresh.fields
  have storyIs : contents.story = name := Value.text.inj storyIs
  have nodeIs : contents.node = known.start := Value.text.inj nodeIs
  have visitsAre : contents.visits = [.text known.start] := Loose.known.inj visitsAre
  have effectsAre : contents.effects = [] := List.map_eq_nil_iff.mp (Loose.known.inj effectsAre)
  refine ⟨⟨by simp [visitsAre, Value.text?], by simp [effectsAre]⟩, ?_, ?_⟩
  · obtain ⟨node, here, _⟩ := Navigator.node_of_mem
      (rfl : (Navigator.mk library.source []).stories = library.source) linked listed closed.start
    exact ⟨node, nodeIs ▸ Navigator.node_text_eq_ok.mp here⟩
  · have some : 0 < known.nodes.length := by
      simpa [Table.names, Assoc.keys] using List.length_pos_of_mem closed.start
    refine Navigator.knowsProgress_of_le (storyIs ▸ found) (Nat.zero_le 1000) ?_
    rw [visitsAre, Nat.pow_zero, Nat.mul_one]
    exact some

end GameMaster
end Gamebook
