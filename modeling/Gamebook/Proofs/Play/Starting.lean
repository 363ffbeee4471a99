import Gamebook.Proofs.Play.Keeping
import Gamebook.Proofs.Play.Persisting
import Gamebook.Proofs.Save.Naming

/-!
New games of plain stories can be held by saves, for players, seeds and stats that are plain.
-/
namespace Gamebook

/-- A plain text, which may be empty. -/
def Value.IsWord (value : Value) : Prop := ∃ word, value = .text word ∧ Text.isPlain word = true

theorem Dict.Plain.update {dict other : Dict} (plain : dict.Plain)
    (words : ∀ entry ∈ other, entry.1.IsWord ∧ entry.2.isPlain = true) :
    Dict.Plain (Assoc.update dict other) := by
  induction other generalizing dict with
  | nil => exact plain
  | cons pair other ih =>
    obtain ⟨⟨⟨word, named, whole⟩, given⟩, rest⟩ := List.forall_mem_cons.mp words
    obtain ⟨key, value⟩ := pair
    obtain rfl : key = .text word := named
    exact ih (plain.insert whole given) rest

theorem GameState.defaultStats_plain : Dict.Plain GameState.defaultStats := by
  have plain : ["knowledge", "dexterity", "charisma", "strength", "luck"].all Text.isPlain = true := by
    decide
  refine ⟨by simp [defaultStats], fun entry member => ?_, fun entry member => ?_⟩
  · obtain ⟨name, inside, rfl⟩ := List.mem_map.mp member
    exact List.all_eq_true.mp plain name inside
  · obtain ⟨name, inside, rfl⟩ := List.mem_map.mp member
    rfl

/-- The contents of a new game. -/
def GameState.Contents.begun (now : Timestamp) (player story save start : String) (seed : Value)
    (stats : Dict) : GameState.Contents :=
  ⟨player, story, save, start, [.text start], [], stats, [], [], [], [], now, now, seed⟩

theorem GameState.Contents.Storable.begun {now : Timestamp} {player story save start : String}
    {seed : Value} {stats : Dict} (aware : now.IsAware) (named : Text.IsName player)
    (titled : Text.IsName story) (kept : Text.IsName save) (starts : Text.IsName start)
    (seeded : seed = .null ∨ seed.IsWord)
    (reaching : ∀ entry ∈ stats, entry.1.text?.isSome = true ∧ entry.2.Reaches 1)
    (plain : stats.Plain) :
    (Contents.begun now player story save start seed stats).Storable := by
  have none : Dict.Plain [] := ⟨List.nodup_nil, nofun, nofun⟩
  refine {
    visits := List.forall_mem_singleton.mpr rfl
    visited := .head _
    history := nofun
    stats := reaching
    wallets := nofun
    inventory := nofun
    flags := nofun
    effects := nofun
    seed := ?seed
    player := named
    story := titled
    save := kept
    node := starts
    plainVisits := List.forall_mem_singleton.mpr starts.plain
    plainHistory := nofun
    plainStats := plain
    plainWallets := none
    plainInventory := none
    plainFlags := none
    plainEffects := nofun
    created := aware
    updated := aware
    plainSeed := ?plainSeed }
  case seed => rcases seeded with rfl | ⟨word, rfl, _⟩ <;> rfl
  case plainSeed =>
    rcases seeded with rfl | ⟨word, rfl, whole⟩
    · rfl
    · exact whole

/-- A mapping of plain texts to plain values. -/
structure Value.IsStats (value : Value) : Prop where
  mapping : value = .null ∨ ∃ fields, value = .object fields
  plain : value.isPlain = true

theorem Value.IsStats.words {value : Value} {given : Dict} (stats : value.IsStats)
    (read : value.asDict = .ok given) : ∀ entry ∈ given, entry.1.IsWord ∧ entry.2.isPlain = true := by
  obtain ⟨rfl | ⟨fields, rfl⟩, plain⟩ := stats
  · cases read
  · cases read
    rw [isPlain, Bool.and_eq_true, fieldsPlain_eq_all, List.all_eq_true] at plain
    intro entry member
    obtain ⟨field, inside, rfl⟩ := List.mem_map.mp member
    have both := Bool.and_eq_true_iff.mp (plain.1 field inside)
    exact ⟨⟨field.1, rfl, both.1⟩, both.2⟩

namespace GameMaster
variable {σ : Type} {master : GameMaster σ} {now : Timestamp} {player story save seed stats : Value}

/-- The stories, if they can be read at all, are those of an accepted document of plain texts. -/
def HasPlain (master : GameMaster σ) : Prop := ∀ source, master.stories = .ok source →
  ∃ document library, Dict.Plain document ∧ Library.ofDocument document = .ok library ∧
    source = library.source

theorem HasPlain.names (plain : master.HasPlain) {start : Value}
    (starts : master.startNode story = .ok start) : story.IsWord ∧ start.IsName := by
  obtain ⟨source, stories, begins⟩ := startNode_eq_ok starts
  obtain ⟨document, library, legible, read, rfl⟩ := plain source stories
  obtain ⟨name, known, rfl, found, rfl⟩ := Library.startNode_eq_ok.mp begins
  have listed := Library.story_eq_ok found
  have worded := Library.ofDocument_plain legible read _ listed
  have id : known.id = name := (Library.ofDocument_linked read).2 _ listed
  exact ⟨⟨name, rfl, id ▸ worded.id⟩, known.start, rfl, worded.start⟩

theorem newState_storable (plain : master.HasPlain) (aware : now.IsAware)
    (named : player.isPlain = true) (seeded : seed = .null ∨ seed.IsWord) (given : stats.IsStats)
    {start : Value} (starts : master.startNode story = .ok start) {id : SaveId}
    (asked : SaveId.ofValue save = .ok id) {state : GameState}
    (made : newState now player story start save seed stats = .ok state)
    (accepted : state.validate = .ok ()) (keys : Snapshot.isNamed state = true) :
    ∃ contents : GameState.Contents, state = contents.state ∧ contents.save = id.text ∧
      contents.Storable := by
  obtain ⟨dict, rfl, origin⟩ := newState_eq_ok made
  obtain ⟨known, same, valid⟩ := GameState.validate_eq_ok.mp accepted
  obtain ⟨⟨title, rfl, titlePlain⟩, name, rfl, startNamed⟩ := plain.names starts
  obtain rfl := SaveId.ofValue_eq_ok asked
  obtain ⟨person, rfl⟩ : ∃ person, player = .text person :=
    ⟨known.player, congrArg GameState.playerId same⟩
  let contents : GameState.Contents := .begun now person title id.text name seed dict
  obtain rfl : contents = known := GameState.Contents.state_injective same
  have statsPlain : Dict.Plain dict := by
    rcases origin with rfl | ⟨entries, read, rfl⟩
    · exact GameState.defaultStats_plain
    · exact GameState.defaultStats_plain.update (given.words read)
  have texts : ∀ entry ∈ dict, entry.1.text?.isSome = true := by
    simp only [Snapshot.isNamed, Bool.and_eq_true] at keys
    exact List.all_eq_true.mp keys.1.1.1
  have reaching : ∀ entry ∈ dict, entry.1.text?.isSome = true ∧ entry.2.Reaches 1 :=
    fun entry member => ⟨texts entry member, (Value.isAtLeast_eq_ok.mp (valid.stats entry member)).1⟩
  exact ⟨contents, rfl, rfl, .begun aware ⟨valid.player, named⟩ ⟨valid.story, titlePlain⟩
    ⟨valid.save, id.isPlain_text⟩ startNamed seeded reaching statsPlain⟩

end GameMaster
end Gamebook
