import Gamebook.Proofs.Play.Persisting
import Gamebook.Proofs.State.Storable

/-!
Calls that fail and what they leave of the saves. A deletion that fails leaves all of them; so do a
new game and a choice, unless what they led to was written and only then turned out not to be shown.
-/
namespace Gamebook

namespace Navigator
variable {navigator : Navigator} {library : Library}

theorem node_again (plays : navigator.stories = library.source) (linked : library.Linked)
    {name : String} {node : StoryNode} (found : navigator.node (.text name) = .ok node) :
    navigator.node (.text node.id) = .ok node := by
  have indexed := node_text_eq_ok.mp found
  rw [plays] at indexed
  rw [Library.id_of_node? linked indexed]
  exact found

end Navigator

namespace GameMaster
variable {σ : Type} {master : GameMaster σ} {now : Timestamp} {save index : Value}
  {world after : World σ}

/-- Contents on a node of the stories are written under their own name. -/
structure Lands [Host] (master : GameMaster σ) (library : Library) (contents : GameState.Contents)
    (own : SaveId) (document : Table Value) (world after : World σ) : Prop where
  plays : master.stories = .ok library.source
  keyed : contents.Keyed
  stands : ∃ node, library.source.node? contents.node = some node
  named : SaveId.ofValue (.text contents.save) = .ok own
  saved : Snapshot.ofState contents.state = .ok document
  put : after.saves =
    world.saves.put own.fileName (.text (Json.write .file (.object document)))

/-- The text of contents under their own name, and why they cannot be shown. -/
structure Strands [Host] (master : GameMaster σ) (library : Library) (contents : GameState.Contents)
    (own : SaveId) (text : String) (failure : Failure) : Prop where
  plays : master.stories = .ok library.source
  named : SaveId.ofValue (.text contents.save) = .ok own
  saved : ∃ document, Snapshot.ofState contents.state = .ok document ∧
    text = Json.write .file (.object document)
  veils : master.Veils library contents failure

/-- A call that writes a state to a save and then shows it: a failure of it changes a save exactly
if the state was written and cannot be shown. -/
structure StrandsOnly [Host] {α β : Type} (master : GameMaster σ) (write : Playing σ α)
    (written : α → GameState) (call : Playing σ β) (world after : World σ) : Prop where
  changes : ∀ failure, call world = .error failure after →
    (¬ after.saves.SameSaves world.saves ↔ ∃ value library contents own text,
      write world = .ok value after ∧ written value = contents.state ∧
      master.Strands library contents own text failure ∧ world.saves.held own ≠ some (.text text))
  fails : ∀ value library contents own text failure, write world = .ok value after →
    written value = contents.state → master.Strands library contents own text failure →
      call world = .error failure after ∧ after.saves.held own = some (.text text) ∧
        ∀ other : SaveId, other.fileName ≠ own.fileName →
          after.saves.held other = world.saves.held other

section
variable {α β : Type} {write : Playing σ α} {written : α → GameState} {call : Playing σ β}

theorem strandsOnly [Host] (calls : ∀ failure, call world = .error failure after ↔
      write world = .error failure after ∨ ∃ value, write world = .ok value after ∧
        master.view (written value) = .error failure)
    (spares : ∀ failure, write world = .error failure after → after.saves.SameSaves world.saves)
    (lands : ∀ value, write world = .ok value after → ∃ library contents own document,
      written value = contents.state ∧ master.Lands library contents own document world after) :
    master.StrandsOnly write written call world after := by
  constructor
  case changes =>
    intro failure failed
    rcases (calls failure).mp failed with stopped | ⟨value, wrote, unshown⟩
    · refine ⟨fun changed => absurd (spares failure stopped) changed, ?_⟩
      rintro ⟨_, _, _, _, _, wrote, _⟩
      cases stopped.symm.trans wrote
    obtain ⟨library, contents, own, document, leads, landed⟩ := lands value wrote
    -- Writing the text that was there is no change, and it is the only write that is none.
    rw [landed.put, SaveStore.put_sameSaves_iff]
    constructor
    · intro differs
      rw [leads] at unshown
      cases (view_eq_error landed.plays landed.keyed).mp unshown with
      | noNode missing =>
        obtain ⟨node, here⟩ := landed.stands
        cases missing.symm.trans here
      | veiled veils =>
        exact ⟨value, library, contents, own, _, wrote, leads,
          ⟨landed.plays, landed.named, ⟨document, landed.saved, rfl⟩, veils⟩, differs⟩
    · rintro ⟨_, _, _, _, _, again, leads', ⟨_, named, ⟨_, saved, rfl⟩, _⟩, differs⟩
      cases wrote.symm.trans again
      obtain rfl := GameState.Contents.state_injective (leads.symm.trans leads')
      obtain rfl := Except.ok.inj (landed.named.symm.trans named)
      obtain rfl := Except.ok.inj (landed.saved.symm.trans saved)
      exact differs
  case fails =>
    rintro value library contents own _ failure wrote leads ⟨plays, named, ⟨_, saved, rfl⟩, veils⟩
    obtain ⟨_, _, _, _, leads', landed⟩ := lands value wrote
    obtain rfl := GameState.Contents.state_injective (leads.symm.trans leads')
    obtain rfl := Except.ok.inj (named.symm.trans landed.named)
    obtain rfl := Except.ok.inj (saved.symm.trans landed.saved)
    refine ⟨(calls failure).mpr (.inr ⟨value, wrote, ?_⟩), ?_, fun other differs => ?_⟩
    · rw [leads]
      exact (view_eq_error plays landed.keyed).mpr (.veiled veils)
    · rw [landed.put, SaveStore.held_put]
    · rw [landed.put, SaveStore.held_put_other differs]

end

theorem start_eq_error_iff [Host] {player story seed stats : Value} {overwrite : Bool}
    {failure : Failure} :
    master.start now player story save seed stats overwrite world = .error failure after ↔
      master.establish now player story save seed stats overwrite world = .error failure after ∨
      ∃ state, master.establish now player story save seed stats overwrite world = .ok state after ∧
        master.view state = .error failure := by
  rw [start_eq, draw_bind_eq_error]
  refine or_congr_right (exists_congr fun state => ?_)
  simp only [Playing.outcome, draw_lift_eq_error]
  constructor
  · rintro ⟨_, established, unshown, rfl⟩
    exact ⟨established, unshown⟩
  · rintro ⟨established, unshown⟩
    exact ⟨after, established, unshown, rfl⟩

theorem choose_eq_error_iff [Host] {failure : Failure} :
    master.choose now save index world = .error failure after ↔
      master.advance now save index world = .error failure after ∨
      ∃ transition, master.advance now save index world = .ok transition after ∧
        master.view transition.state = .error failure := by
  rw [choose_eq, draw_bind_eq_error]
  refine or_congr_right (exists_congr fun transition => ?_)
  constructor
  · rintro ⟨between, advanced, unshown⟩
    rcases draw_bind_eq_error.mp unshown with stopped | ⟨_, _, _, ⟨⟩⟩
    obtain ⟨failed, rfl⟩ := draw_lift_eq_error.mp stopped
    exact ⟨advanced, failed⟩
  · rintro ⟨advanced, unshown⟩
    exact ⟨after, advanced, draw_bind_eq_error.mpr (.inl (draw_lift_eq_error.mpr ⟨unshown, rfl⟩))⟩

theorem establish_lands [Host] (loaded : master.HasLoaded) {player story seed stats : Value}
    {overwrite : Bool} {state : GameState}
    (established : master.establish now player story save seed stats overwrite world =
      .ok state after) : ∃ library contents own document, state = contents.state ∧
      master.Lands library contents own document world after ∧
      Navigator.KnowsProgress library contents := by
  obtain ⟨start, id, document, starts, asked, made, accepted, saved, _, _, _, rfl⟩ :=
    establish_eq_ok established
  obtain ⟨source, plays, begins⟩ := startNode_eq_ok starts
  obtain ⟨_, library, read, rfl⟩ := loaded source plays
  obtain ⟨contents, rfl, _⟩ := GameState.validate_eq_ok.mp accepted
  obtain ⟨keyed, stands, known⟩ :=
    fresh_stands (Library.ofDocument_linked read).1 begins (newState_fresh made)
  have own : save = .text contents.save := by
    obtain ⟨_, same, _⟩ := newState_eq_ok made
    exact (congrArg GameState.saveId same).symm
  exact ⟨library, contents, id, document, rfl, ⟨plays, keyed, stands, own ▸ asked, saved, rfl⟩, known⟩

theorem advance_lands [Host] (loaded : master.HasLoaded) {transition : Transition}
    (advanced : master.advance now save index world = .ok transition after) :
    ∃ library contents own document, transition.state = contents.state ∧
      master.Lands library contents own document world after := by
  obtain ⟨id, state, source, document, own, _, found, plays, taken, saved, named, _, _, _, put⟩ :=
    advance_eq_ok advanced
  obtain ⟨_, _, restored⟩ := SaveStore.load_eq_ok.mp found
  obtain ⟨contents, rfl, _, sound⟩ := Snapshot.restore_eq_ok restored
  obtain ⟨_, library, read, rfl⟩ := loaded source plays
  obtain ⟨next, reached, moves⟩ := taken.moves
  have linked := (Library.ofDocument_linked read).1
  have stands : ∃ node, library.source.node? next.node = some node := by
    cases moves with
    | intro node target place choice applied altered lasting here chosen leads alters offered ticked =>
      exact ⟨target, Navigator.node_text_eq_ok.mp (Navigator.node_again rfl linked leads)⟩
  rw [reached] at saved named
  exact ⟨library, next, own, document, reached,
    ⟨plays, (moves.sound sound).keyed, stands, named, saved, put⟩⟩

/-- The one way for a failing call to change a save: what it wrote cannot be shown, which for a new
game can only be for a condition that jams. -/
theorem failing_calls [Host] (loaded : master.HasLoaded) (world after : World σ) :
    (∀ now player story save seed stats overwrite,
      let write := master.establish now player story save seed stats overwrite
      master.StrandsOnly write id (master.start now player story save seed stats overwrite)
        world after ∧
      ∀ library contents, write world = .ok contents.state after →
        master.stories = .ok library.source → Navigator.KnowsProgress library contents) ∧
    (∀ save failure, Playing.delete save world = .error failure after →
      after.saves.SameSaves world.saves) ∧
    ∀ now save index, master.StrandsOnly (master.advance now save index) Transition.state
      (master.choose now save index) world after := by
  refine ⟨fun now player story save seed stats overwrite => ⟨?_, fun library contents wrote plays => ?_⟩,
    fun save failure failed => ?_, fun now save index => ?_⟩
  · refine strandsOnly (fun failure => start_eq_error_iff) (fun failure => establish_eq_error)
      fun state wrote => ?_
    obtain ⟨library, contents, own, document, leads, lands, _⟩ := establish_lands loaded wrote
    exact ⟨library, contents, own, document, leads, lands⟩
  · obtain ⟨_, _, _, _, leads, lands, known⟩ := establish_lands loaded wrote
    obtain rfl := GameState.Contents.state_injective leads
    exact known.of_source (Except.ok.inj (lands.plays.symm.trans plays))
  · rw [Playing.delete_eq_error failed]
    exact .refl _
  · exact strandsOnly (fun failure => choose_eq_error_iff) (fun failure => advance_eq_error)
      fun transition wrote => advance_lands loaded wrote

def harbourMaster : GameMaster RandomSource :=
  ⟨do return (← Library.ofDocument Navigator.harbour).source, [], RandomSource.generator⟩

theorem harbourMaster_hasLoaded : harbourMaster.HasLoaded := by
  intro source stories
  obtain ⟨library, read, same⟩ := bind_eq_ok.mp stories
  exact ⟨_, library, read, (pure_eq_ok.mp same).symm⟩

/-- The save of a game in the harbour from when that story still had another id. -/
def oldSave : String :=
  " \x7b\"version\": 1, \"playerId\": \"sailor\", \"storyId\": \"haven\", \"saveId\": \"first\"," ++
  " \"currentNodeId\": \"pier\", \"visitedNodes\": [\"pier\"]," ++
  " \"createdAt\": \"2024-05-01T08:00:00Z\", \"updatedAt\": \"2024-05-01T08:00:00Z\"\x7d"

def oldWorld : World RandomSource := ⟨⟨some [("first.json", .text oldSave)]⟩, .fixed []⟩

/-- No save that is written is the old one, which begins with a blank. -/
theorem oldWorld_holds {own : SaveId} (document : Table Value) :
    oldWorld.saves.held own ≠ some (.text (Json.write .file (.object document))) := by
  intro held
  obtain ⟨entry, member, _, same⟩ : ∃ entry ∈ oldWorld.saves.entries,
      (entry.1 == own.fileName) = true ∧ entry.2 = _ := Assoc.mem_of_get? held
  obtain rfl := List.mem_singleton.mp member
  have text : oldSave.toList = (Json.write .file (.object document)).toList :=
    congrArg String.toList (Entry.text.inj same)
  have first : oldSave.toList.head? = some ' ' := by decide +kernel
  rw [text, Json.write, String.toList_ofList, Json.writeValue, Json.enclose] at first
  split at first <;> cases first

open scoped Host in
theorem failing_calls_oldSave : ∃ failure after, harbourMaster.HasLoaded ∧
    harbourMaster.choose Story.Lighthouse.morning (.text "first") (.int 0) oldWorld =
      .error failure after ∧ ¬ after.saves.SameSaves oldWorld.saves := by
  obtain ⟨transition, after, advanced, hidden⟩ :=
    ok_of_gives (show gives (fun transition => !(harbourMaster.view transition.state).isOk)
      (harbourMaster.advance Story.Lighthouse.morning (.text "first") (.int 0) oldWorld) = true by
        decide +kernel)
  obtain ⟨library, contents, own, document, leads, lands⟩ :=
    advance_lands harbourMaster_hasLoaded advanced
  obtain ⟨node, here⟩ := lands.stands
  have veiled : ∃ failure, harbourMaster.Veils library contents failure := by
    refine (veils_iff here).mpr fun clear => ?_
    obtain ⟨view, shown⟩ := (view_eq_ok lands.plays lands.keyed here).mpr clear
    rw [leads, shown] at hidden
    cases hidden
  obtain ⟨failure, veils⟩ := veiled
  obtain ⟨changes, fails⟩ := (failing_calls harbourMaster_hasLoaded oldWorld after).2.2
    Story.Lighthouse.morning (.text "first") (.int 0)
  have strands : harbourMaster.Strands library contents own _ failure :=
    ⟨lands.plays, lands.named, ⟨document, lands.saved, rfl⟩, veils⟩
  obtain ⟨failed, _⟩ := fails transition library contents own _ failure advanced leads strands
  refine ⟨failure, after, harbourMaster_hasLoaded, failed, (changes failure failed).mpr ?_⟩
  exact ⟨transition, library, contents, own, _, advanced, leads, strands, oldWorld_holds document⟩

end GameMaster
end Gamebook
