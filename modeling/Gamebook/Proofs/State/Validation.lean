import Gamebook.Proofs.State.Shape
import Gamebook.Proofs.Value.Equality
import Gamebook.Proofs.Value.Number
import Gamebook.State.Validate

/-!
What validation accepts. An accepted state has texts, lists, tables and times in their fields, so it
is told by its contents alone.
-/
namespace Gamebook

theorem require_eq_ok {holds : Bool} {field : String} {problem : StateProblem} {result : Unit} :
    require holds field problem = .ok result ↔ holds = true := by
  cases holds <;> simp [require, invalid]

theorem requireOf_eq_ok {holds : Bool} {shown : List Value} {field : String} {problem : StateProblem}
    {result : Unit} : requireOf holds shown field problem = .ok result ↔ holds = true := by
  cases holds with
  | true => simp [requireOf]
  | false =>
    simp only [requireOf, Bool.false_eq_true, if_false, iff_false]
    split <;> exact nofun

namespace Value

theorem isFilledText_iff {value : Value} :
    value.isFilledText = true ↔ ∃ content, value = .text content ∧ content ≠ "" := by
  cases value <;> simp [isFilledText, text?]

end Value

namespace GameState

/-- The contents of a state whose fields hold what they should. -/
structure Contents where
  player : String
  story : String
  save : String
  node : String
  visits : List Value
  history : List ChoiceRecord
  stats : Dict
  wallets : Dict
  inventory : Dict
  flags : Dict
  effects : List StatusEffect
  created : Timestamp
  updated : Timestamp
  seed : Value

namespace Contents

def state (contents : Contents) : GameState where
  playerId := .text contents.player
  storyId := .text contents.story
  saveId := .text contents.save
  currentNodeId := .text contents.node
  visitedNodes := .known contents.visits
  choicesHistory := .known (contents.history.map .known)
  stats := .known contents.stats
  wallets := .known contents.wallets
  inventory := .known contents.inventory
  flags := .known contents.flags
  statusEffects := .known (contents.effects.map .known)
  createdAt := .known contents.created
  updatedAt := .known contents.updated
  seed := contents.seed

structure Valid (contents : Contents) : Prop where
  player : contents.player ≠ ""
  story : contents.story ≠ ""
  save : contents.save ≠ ""
  node : contents.node ≠ ""
  stats : ∀ entry ∈ contents.stats, entry.2.isAtLeast 1 = .ok true
  wallets : ∀ entry ∈ contents.wallets, entry.2.isAtLeast 0 = .ok true
  inventory : ∀ entry ∈ contents.inventory, entry.2.isAtLeast 0 = .ok true
  types : ∀ effect ∈ contents.effects, effect.type.isFilledText = true
  durations : ∀ effect ∈ contents.effects, (effect.duration.isNull || effect.duration.isCount) = true
  visited : .text contents.node ∈ contents.visits

end Contents

/-- Copying goes through all contents and leaves them as they are. -/
theorem copy_contents_eq [Host] (contents : Contents) : contents.state.copy =
    if contents.state.flags.depth ≤ Host.cloning then .ok contents.state else .error .tooDeep := by
  have logged : contents.state.choicesHistory.entries = .ok contents.history :=
    Loose.entries_known contents.history
  have affected : contents.state.statusEffects.entries = .ok contents.effects :=
    Loose.entries_known contents.effects
  unfold copy Loose.copied
  rw [logged, affected]
  split <;> rfl

theorem wellShaped_eq_ok {α : Type} {field : String} {shape : Requirement} {entry : Loose α}
    {value : α} : wellShaped field shape entry = .ok value ↔ entry = .known value := by
  cases entry <;> simp [wellShaped, invalid]

theorem checkTable_eq_ok {field : String} {least : Int} {problem : Value → StateProblem}
    {table : Dict} {result : Unit} : checkTable field least problem table = .ok result ↔
      ∀ entry ∈ table, entry.2.isAtLeast least = .ok true := by
  induction table with
  | nil => simp [checkTable]
  | cons first table ih =>
    rw [checkTable, bind_eq_ok]
    simp [bind_eq_ok, requireOf_eq_ok, ih]

theorem checkTimestamp_eq_ok {field : String} {entry : Loose Timestamp} {result : Unit} :
    checkTimestamp field entry = .ok result ↔ ∃ time, entry = .known time := by
  cases entry <;> simp [checkTimestamp, invalid]

theorem checkHistory_eq_ok {index : Nat} {entries : List (Loose ChoiceRecord)} {result : Unit} :
    checkHistory index entries = .ok result ↔ ∃ history, entries = List.map .known history := by
  induction entries generalizing index with
  | nil => exact ⟨fun _ => ⟨[], rfl⟩, fun _ => rfl⟩
  | cons entry entries ih =>
    cases entry with
    | known record =>
      rw [checkHistory, ih]
      constructor
      · rintro ⟨history, rfl⟩
        exact ⟨record :: history, rfl⟩
      · rintro ⟨history, same⟩
        cases history with
        | nil => cases same
        | cons first history => exact ⟨history, (List.cons.inj same).2⟩
    | other value =>
      refine ⟨nofun, ?_⟩
      rintro ⟨history, same⟩
      cases history <;> cases same

theorem checkEffects_eq_ok {index : Nat} {entries : List (Loose StatusEffect)} {result : Unit} :
    checkEffects index entries = .ok result ↔
      ∃ effects, entries = List.map .known effects ∧
        (∀ effect ∈ effects, effect.type.isFilledText = true) ∧
        ∀ effect ∈ effects, (effect.duration.isNull || effect.duration.isCount) = true := by
  induction entries generalizing index with
  | nil =>
    refine ⟨fun _ => ⟨[], rfl, nofun, nofun⟩, fun _ => rfl⟩
  | cons entry entries ih =>
    cases entry with
    | known effect =>
      simp only [checkEffects, bind_eq_ok, require_eq_ok, ih]
      constructor
      · rintro ⟨_, typed, _, timed, effects, rfl, types, durations⟩
        exact ⟨effect :: effects, rfl, List.forall_mem_cons.mpr ⟨typed, types⟩,
          List.forall_mem_cons.mpr ⟨timed, durations⟩⟩
      · rintro ⟨effects, same, types, durations⟩
        cases effects with
        | nil => cases same
        | cons first effects =>
          obtain ⟨⟨⟩, rfl⟩ := List.cons.inj same
          exact ⟨(), types _ (.head _), (), durations _ (.head _), effects, rfl,
            fun other member => types other (.tail _ member),
            fun other member => durations other (.tail _ member)⟩
    | other value =>
      refine ⟨nofun, ?_⟩
      rintro ⟨effects, same, _⟩
      cases effects <;> cases same

theorem checkIdentity_eq_ok {state : GameState} {result : Unit} :
    state.checkIdentity = .ok result ↔ state.playerId.isFilledText = true ∧
      state.storyId.isFilledText = true ∧ state.saveId.isFilledText = true ∧
      state.currentNodeId.isFilledText = true := by
  simp [checkIdentity, bind_eq_ok, require_eq_ok]

theorem checkContents_eq_ok {state : GameState} {result : Unit} :
    state.checkContents = .ok result ↔
      ∃ visits, state.visitedNodes = .known visits ∧
      ∃ history, state.choicesHistory = .known (List.map .known history) ∧
      ∃ effects, state.statusEffects = .known (List.map .known effects) ∧
      ∃ stats, state.stats = .known stats ∧ ∃ wallets, state.wallets = .known wallets ∧
      ∃ inventory, state.inventory = .known inventory ∧ ∃ flags, state.flags = .known flags ∧
      (∀ entry ∈ stats, entry.2.isAtLeast 1 = .ok true) ∧
      (∀ entry ∈ wallets, entry.2.isAtLeast 0 = .ok true) ∧
      (∀ entry ∈ inventory, entry.2.isAtLeast 0 = .ok true) ∧
      (∀ effect ∈ effects, effect.type.isFilledText = true) ∧
      (∀ effect ∈ effects, (effect.duration.isNull || effect.duration.isCount) = true) ∧
      (∃ time, state.createdAt = .known time) ∧ (∃ time, state.updatedAt = .known time) ∧
      state.currentNodeId.isAmong visits = true := by
  simp only [checkContents, bind_eq_ok, wellShaped_eq_ok, checkTable_eq_ok, checkEffects_eq_ok,
    checkHistory_eq_ok, checkTimestamp_eq_ok, require_eq_ok]
  constructor
  · rintro ⟨visits, visitsIs, _, historyIs, _, effectsIs, stats, statsIs, wallets, walletsIs,
      inventory, inventoryIs, flags, flagsIs, _, statsFine, _, walletsFine, _, inventoryFine, _,
      ⟨effects, rfl, types, durations⟩, _, ⟨history, rfl⟩, _, created, _, updated, visited⟩
    exact ⟨visits, visitsIs, history, historyIs, effects, effectsIs, stats, statsIs, wallets,
      walletsIs, inventory, inventoryIs, flags, flagsIs, statsFine, walletsFine, inventoryFine,
      types, durations, created, updated, visited⟩
  · rintro ⟨visits, visitsIs, history, historyIs, effects, effectsIs, stats, statsIs, wallets,
      walletsIs, inventory, inventoryIs, flags, flagsIs, statsFine, walletsFine, inventoryFine,
      types, durations, created, updated, visited⟩
    exact ⟨visits, visitsIs, _, historyIs, _, effectsIs, stats, statsIs, wallets, walletsIs,
      inventory, inventoryIs, flags, flagsIs, (), statsFine, (), walletsFine, (), inventoryFine, (),
      ⟨effects, rfl, types, durations⟩, (), ⟨history, rfl⟩, (), created, (), updated, visited⟩

theorem validate_eq_ok {state : GameState} {result : Unit} : state.validate = .ok result ↔
    ∃ contents : Contents, state = contents.state ∧ contents.Valid := by
  rw [validate, bind_eq_ok]
  simp only [checkIdentity_eq_ok, checkContents_eq_ok]
  constructor
  · rintro ⟨_, ⟨playerFilled, storyFilled, saveFilled, nodeFilled⟩, visits, visitsIs, history,
      historyIs, effects, effectsIs, stats, statsIs, wallets, walletsIs, inventory, inventoryIs,
      flags, flagsIs, statsFine, walletsFine, inventoryFine, types, durations,
      ⟨created, createdIs⟩, ⟨updated, updatedIs⟩, visited⟩
    obtain ⟨player, playerIs, player_filled⟩ := Value.isFilledText_iff.mp playerFilled
    obtain ⟨story, storyIs, story_filled⟩ := Value.isFilledText_iff.mp storyFilled
    obtain ⟨save, saveIs, save_filled⟩ := Value.isFilledText_iff.mp saveFilled
    obtain ⟨node, nodeIs, node_filled⟩ := Value.isFilledText_iff.mp nodeFilled
    rw [nodeIs, Value.text_isAmong_iff] at visited
    refine ⟨⟨player, story, save, node, visits, history, stats, wallets, inventory, flags, effects,
      created, updated, state.seed⟩, ?_, ⟨player_filled, story_filled, save_filled, node_filled,
      statsFine, walletsFine, inventoryFine, types, durations, visited⟩⟩
    simp only [Contents.state, ← playerIs, ← storyIs, ← saveIs, ← nodeIs, ← visitsIs, ← historyIs,
      ← effectsIs, ← statsIs, ← walletsIs, ← inventoryIs, ← flagsIs, ← createdIs, ← updatedIs]
  · rintro ⟨contents, rfl, valid⟩
    exact ⟨(), ⟨Value.isFilledText_iff.mpr ⟨_, rfl, valid.player⟩,
      Value.isFilledText_iff.mpr ⟨_, rfl, valid.story⟩,
      Value.isFilledText_iff.mpr ⟨_, rfl, valid.save⟩,
      Value.isFilledText_iff.mpr ⟨_, rfl, valid.node⟩⟩, _, rfl, _, rfl, _, rfl, _, rfl, _, rfl, _,
      rfl, _, rfl, valid.stats, valid.wallets, valid.inventory, valid.types, valid.durations,
      ⟨_, rfl⟩, ⟨_, rfl⟩, Value.text_isAmong_iff.mpr valid.visited⟩

end GameState
end Gamebook
