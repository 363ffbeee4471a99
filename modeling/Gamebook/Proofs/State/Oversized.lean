import Gamebook.Proofs.Save.Holding
import Gamebook.Proofs.State.Stopping

/-!
Saves of games with numbers past all doubles. What was written is complete, but such a number stops
the restoring, so the save cannot be loaded.
-/
namespace Gamebook

theorem Dict.stops_of_oversized {dict : Dict} {least : Int}
    (reaches : ∀ entry ∈ dict, entry.2.Reaches least)
    (fails : ¬ ∀ entry ∈ dict, entry.2.isAtLeast least = .ok true) : dict.Stops least .tooLarge := by
  induction dict with
  | nil => exact absurd (List.forall_mem_nil _) fails
  | cons entry dict ih =>
    obtain ⟨first, others⟩ := List.forall_mem_cons.mp reaches
    by_cases sized : entry.2.Sized
    · have fine := Value.isAtLeast_eq_ok.mpr ⟨first, sized⟩
      exact .later fine (ih others fun each => fails (List.forall_mem_cons.mpr ⟨fine, each⟩))
    · exact .tooLarge sized

namespace Snapshot

/-- Fields that differ in the status effects from some that can be read are read up to there. -/
theorem Reads.opens [Host] {fields other : Table Value} {state : GameState}
    (reads : Reads other state)
    (same : ∀ name, name ≠ "statusEffects" → Assoc.get? fields name = Assoc.get? other name) :
    Opens fields ∧ readFlags "flags" (Value.field fields "flags") = .ok state.flags := by
  have field (name : String) (apart : name ≠ "statusEffects") :
      Value.field fields name = Value.field other name := by
    rw [Value.field, Value.field, same name apart]
  refine ⟨?_, field "flags" (by decide) ▸ reads.flags⟩
  constructor
  case version => exact same "version" (by decide) ▸ reads.version
  case player =>
    rw [same "playerId" (by decide), field "userId" (by decide)]
    exact (readText_eq_ok.mp reads.player).1
  all_goals rw [field _ (by decide)]
  case story => exact (readText_eq_ok.mp reads.story).1
  case save => exact (readText_eq_ok.mp reads.save).1
  case node => exact (readText_eq_ok.mp reads.node).1
  case visits => exact ⟨_, reads.visits⟩
  case history => exact ⟨_, reads.history⟩
  case stats => exact ⟨_, reads.stats⟩
  case wallets => exact ⟨_, reads.wallets⟩
  case inventory => exact ⟨_, reads.inventory⟩

theorem effectsStop_of_oversized {effects : List StatusEffect}
    (sound : ∀ effect ∈ effects, effect.Sound) (plain : ∀ effect ∈ effects, effect.Plain)
    (large : ¬ ∀ effect ∈ effects, effect.value.Sized) :
    EffectsStop (effects.map fun effect => .object (Table.sorted (effectFields effect))) := by
  induction effects with
  | nil => exact absurd (List.forall_mem_nil _) large
  | cons effect effects ih =>
    obtain ⟨first, others⟩ := List.forall_mem_cons.mp sound
    obtain ⟨named, rest⟩ := List.forall_mem_cons.mp plain
    by_cases sized : effect.value.Sized
    · have read := (readEffect_sorted first named "" effect).mpr ⟨sized, rfl⟩
      exact .later (readEffect_eq_ok.mp read)
        (ih others rest fun each => large (List.forall_mem_cons.mpr ⟨sized, each⟩))
    · refine .here ?_
      obtain ⟨_, number, _, _, rfl, _⟩ := effect_shape first named
      rw [Table.sorted, Table.get?_sorted]
      change ¬ number.toValue.sorted.Sized
      rwa [sorted_number]

end Snapshot

namespace GameState.Contents
variable {contents : Contents}

theorem stops_of_oversized (storable : contents.Storable) (large : ¬ contents.Sized)
    (effects : ∀ effect ∈ contents.effects, effect.value.Sized) : contents.sorted.Stops .tooLarge := by
  have oversized {dict : Dict} {least : Int}
      (numbers : ∀ entry ∈ dict, entry.1.text?.isSome = true ∧ entry.2.Reaches least) :=
    Dict.stops_of_oversized fun entry member => (sorted_numbers numbers entry member).2
  by_cases stats : ∀ entry ∈ contents.sorted.stats, entry.2.isAtLeast 1 = .ok true
  · by_cases wallets : ∀ entry ∈ contents.sorted.wallets, entry.2.isAtLeast 0 = .ok true
    · refine .inventory stats wallets (oversized storable.inventory fun inventory => large ?_)
      exact ⟨(checked_iff storable.stats).mp stats, (checked_iff storable.wallets).mp wallets,
        (checked_iff storable.inventory).mp inventory, effects⟩
    · exact .wallets stats (oversized storable.wallets wallets)
  · exact .stats (oversized storable.stats stats)

/-- The document of contents without status effects differs from theirs in one field. -/
private theorem get?_withoutEffects {name : String} (other : name ≠ "statusEffects") :
    Assoc.get? contents.document name = Assoc.get? { contents with effects := [] }.document name := by
  simp [document, Assoc.get?, List.find?_cons, other.symm]

theorem restore_oversized [Host] (storable : contents.Storable)
    (deep : Value.entriesDepth contents.flags ≤ Host.copying) (large : ¬ contents.Sized) :
    Snapshot.restore (Value.object contents.document).sorted = .error (.fault .tooLarge) := by
  rw [Value.sorted_object]
  refine Snapshot.restore_eq_fault.mpr ?_
  by_cases effects : ∀ effect ∈ contents.effects, effect.value.Sized
  · have read := (readFields_document storable deep _).mpr ⟨effects, rfl⟩
    exact .entries (Snapshot.readFields_eq_ok.mp read) (stops_of_oversized storable large effects)
  · let unaffected : Contents := { contents with effects := [] }
    have calm : unaffected.Storable := { storable with effects := nofun, plainEffects := nofun }
    have read := (readFields_document calm deep _).mpr ⟨nofun, rfl⟩
    have same (name : String) (other : name ≠ "statusEffects") :
        Assoc.get? (Table.sorted contents.document) name =
          Assoc.get? (Table.sorted unaffected.document) name := by
      rw [Table.sorted, Table.get?_sorted, Table.sorted, Table.get?_sorted, get?_withoutEffects other]
    obtain ⟨opens, flags⟩ := (Snapshot.readFields_eq_ok.mp read).opens same
    refine .effects opens flags ?_
      (Snapshot.effectsStop_of_oversized storable.effects storable.plainEffects effects)
    exact (Value.field_sorted contents.document "statusEffects").trans (Snapshot.sorted_objects _ _)

end GameState.Contents

theorem SaveStore.load_oversized [Host] {store : SaveStore} {id : SaveId}
    {contents : GameState.Contents}
    {entry : Entry} (held : store.held id = some entry) (keeps : id.Keeps contents entry)
    (large : ¬ contents.Sized) : store.load id = .error (.fault .tooLarge) := by
  have stopped := GameState.Contents.restore_oversized keeps.storable keeps.deep large
  rw [Value.sorted_object] at stopped
  rw [load, read_kept held keeps]
  simp only [stopped]

end Gamebook
