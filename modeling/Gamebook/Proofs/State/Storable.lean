import Gamebook.Proofs.Table
import Gamebook.Proofs.State.Restoring
import Gamebook.Proofs.Time.Saved
import Gamebook.Proofs.Value.Plain

/-!
States that a save can hold: besides being sound, they have names where names are asked for, tables
with different keys, plain texts and values, and times that a clock can show.
-/
namespace Gamebook

/-- A text that can stand for something in a document. -/
structure Text.IsName (text : String) : Prop where
  filled : text ≠ ""
  plain : isPlain text = true

/-- A value that is such a text. -/
def Value.IsName (value : Value) : Prop := ∃ name, value = .text name ∧ Text.IsName name

/-- A table whose keys are different and plain, with plain entries. -/
structure Dict.Plain (dict : Dict) : Prop where
  distinct : (dict.map (·.1)).Nodup
  keys : ∀ entry ∈ dict, entry.1.isPlain = true
  entries : ∀ entry ∈ dict, entry.2.isPlain = true

namespace Dict.Plain
variable {dict : Dict} (plain : dict.Plain)
include plain

theorem insert {name : String} {value : Value} (named : Text.isPlain name = true)
    (given : value.isPlain = true) : Dict.Plain (Assoc.insert dict (.text name) value) := by
  have same : (Value.text name == .text name) = true := Value.beq_text_iff.mpr rfl
  refine ⟨Assoc.nodup_keys_insert same plain.distinct value, fun entry member => ?_, fun entry member => ?_⟩
  · rcases Assoc.key_of_mem_insert member with same | ⟨old, inside, same⟩
    · exact same ▸ named
    · exact same ▸ plain.keys old inside
  · rcases Assoc.mem_insert member with new | ⟨old, _⟩
    · exact new ▸ given
    · exact plain.entries entry old

theorem erase (key : Value) : Dict.Plain (Assoc.erase dict key) := by
  refine ⟨plain.distinct.sublist (List.filter_sublist.map _), fun entry member => ?_,
    fun entry member => ?_⟩
  · exact plain.keys entry (Assoc.mem_erase.mp member).1
  · exact plain.entries entry (Assoc.mem_erase.mp member).1

end Dict.Plain

structure ChoiceRecord.Plain (record : ChoiceRecord) : Prop where
  node : record.nodeId.IsName
  text : record.choiceText.isPlain = true
  time : ∃ time : Timestamp, record.timestamp = .known time ∧ time.IsAware

structure StatusEffect.Plain (effect : StatusEffect) : Prop where
  type : effect.type.IsName
  source : effect.source.isPlain = true

/-- The fields of a state tell its contents. -/
theorem GameState.Contents.state_injective : Function.Injective GameState.Contents.state := by
  intro a b same
  obtain ⟨⟩ := a
  obtain ⟨⟩ := b
  simp only [state, GameState.mk.injEq, Value.text.injEq, Loose.known.injEq,
    Loose.map_known_injective.eq_iff] at same
  obtain ⟨rfl, rfl, rfl, rfl, rfl, rfl, rfl, rfl, rfl, rfl, rfl, rfl, rfl, rfl⟩ := same
  rfl

/-- What a save can hold, but for the sizes of numbers. -/
structure GameState.Contents.Storable (contents : GameState.Contents) : Prop
    extends contents.Sound where
  player : Text.IsName contents.player
  story : Text.IsName contents.story
  save : Text.IsName contents.save
  node : Text.IsName contents.node
  plainVisits : ∀ visit ∈ contents.visits, visit.isPlain = true
  plainHistory : ∀ record ∈ contents.history, record.Plain
  plainStats : Dict.Plain contents.stats
  plainWallets : Dict.Plain contents.wallets
  plainInventory : Dict.Plain contents.inventory
  plainFlags : Dict.Plain contents.flags
  plainEffects : ∀ effect ∈ contents.effects, effect.Plain
  created : contents.created.IsAware
  updated : contents.updated.IsAware
  plainSeed : contents.seed.isPlain = true

/-- Every whole number is one that a double can hold. -/
structure GameState.Contents.Sized (contents : GameState.Contents) : Prop where
  stats : ∀ entry ∈ contents.stats, entry.2.Sized
  wallets : ∀ entry ∈ contents.wallets, entry.2.Sized
  inventory : ∀ entry ∈ contents.inventory, entry.2.Sized
  effects : ∀ effect ∈ contents.effects, effect.value.Sized

end Gamebook
