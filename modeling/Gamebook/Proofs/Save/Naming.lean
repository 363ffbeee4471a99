import Gamebook.Proofs.Json.Extent
import Gamebook.Proofs.Save.Store
import Gamebook.Proofs.State.Restoring

/-!
Saves that were written for states that name them. A state that is loaded from such a save names it
again, even if little else of it is what was written.
-/
namespace Gamebook

theorem SaveId.isPlain_text (id : SaveId) : Text.isPlain id.text = true := by
  have plain (chars : List Char) (good : isPlain chars = true) : Text.mark ∉ chars := by
    intro inside
    cases chars with
    | nil => cases inside
    | cons first rest =>
      simp only [isPlain, Bool.and_eq_true, List.all_eq_true] at good
      rcases List.mem_cons.mp inside with rfl | later
      · exact absurd good.1 (by decide)
      · exact absurd (good.2 _ later) (by decide)
  refine Text.isPlain_of_chars fun inside => ?_
  have valid := id.valid
  unfold isValid at valid
  split at valid
  · rename_i last
    have whole : id.text.toList = id.text.toList.dropLast ++ ['\n'] := by
      obtain ⟨front, same⟩ := List.getLast?_eq_some_iff.mp last
      rw [same, List.dropLast_concat]
    rw [whole] at inside
    rcases List.mem_append.mp inside with before | after
    · exact plain _ valid before
    · exact absurd (List.mem_singleton.mp after) (by decide)
  · exact plain _ valid inside

/-- The names of the fields that a document always has, and of one that it may have. -/
def Snapshot.fieldNames (seeded : Bool) : List String :=
  ["version", "playerId", "storyId", "saveId", "currentNodeId", "visitedNodes", "choicesHistory",
    "stats", "wallets", "inventory", "flags", "statusEffects", "createdAt", "updatedAt"] ++
    if seeded then ["seed"] else []

theorem Snapshot.ofState_names [Host] {state : GameState} {document : Table Value}
    (ok : ofState state = .ok document) :
    document.map (·.1) = fieldNames (!state.seed.isNull) ∧ ("saveId", state.saveId) ∈ document := by
  obtain ⟨visits, _, rest⟩ := bind_eq_ok.mp ok
  obtain ⟨entries, _, rest⟩ := bind_eq_ok.mp rest
  obtain ⟨history, _, rest⟩ := bind_eq_ok.mp rest
  obtain ⟨stats, _, rest⟩ := bind_eq_ok.mp rest
  obtain ⟨wallets, _, rest⟩ := bind_eq_ok.mp rest
  obtain ⟨inventory, _, rest⟩ := bind_eq_ok.mp rest
  obtain ⟨flags, _, rest⟩ := bind_eq_ok.mp rest
  obtain ⟨effects, _, rest⟩ := bind_eq_ok.mp rest
  obtain ⟨created, _, rest⟩ := bind_eq_ok.mp rest
  obtain ⟨updated, _, rest⟩ := bind_eq_ok.mp rest
  obtain rfl := pure_eq_ok.mp rest
  refine ⟨?_, by simp⟩
  unfold optional fieldNames
  cases state.seed.isNull <;> rfl

/-- What stands in the file of a save once a state that names it was written. -/
structure SaveId.Documents [Host] (id : SaveId) (state : GameState) (document : Table Value)
    (entry : Entry) : Prop where
  named : state.saveId = .text id.text
  documented : Snapshot.ofState state = .ok document
  writable : (Value.object document).isWritable = true
  short : id.text.length + SaveStore.draftMarks ≤ Host.drafting
  written : entry = .text (Json.write .file (.object document))

namespace SaveStore
variable {store : SaveStore} {id : SaveId}

/-- Every save names itself. -/
def Named [Host] (store : SaveStore) : Prop :=
  store.Every fun id entry => ∃ state document, id.Documents state document entry

theorem read_text [Host] {content : String} {document : Table Value}
    (held : store.held id = some (.text content)) (ok : store.read id = .ok document) :
    Json.read content = .ok (.object document) := by
  unfold SaveStore.held at held
  unfold SaveStore.read at ok
  split at ok
  · cases ok
  · rw [held] at ok
    dsimp only at ok
    split at ok
    · rename_i read
      cases ok
      exact read
    all_goals cases ok

theorem Named.saveId [Host] (named : store.Named) {state : GameState}
    (ok : store.load id = .ok state) : state.saveId = .text id.text := by
  obtain ⟨entry, held⟩ := held_of_load ok
  obtain ⟨origin, document, documents⟩ := named id entry held
  obtain ⟨found, read, restored⟩ := load_eq_ok.mp ok
  rw [documents.written] at held
  -- The other fields may be read as something else than was written, such as numbers of another kind.
  obtain ⟨names, own⟩ := Snapshot.ofState_names documents.documented
  rw [documents.named] at own
  have listed : (Snapshot.fieldNames (!origin.seed.isNull)).all Text.isPlain = true ∧
      (Snapshot.fieldNames (!origin.seed.isNull)).Nodup := by
    cases origin.seed.isNull <;> decide
  have plain : ∀ field ∈ document, Text.isPlain field.1 = true := fun field member =>
    List.all_eq_true.mp listed.1 field.1 (names ▸ List.mem_map_of_mem member)
  obtain ⟨fields, same, field⟩ := Json.field_of_read documents.writable plain (names ▸ listed.2) own
    id.isPlain_text (read_text held read)
  obtain rfl := Value.object.inj same
  obtain ⟨contents, rfl, _, reads⟩ := Snapshot.restore_object_eq_ok.mp restored
  exact (Snapshot.readText_eq_ok.mp reads.save).2.symm.trans field

theorem Named.short [Host] (named : store.Named) {entry : Entry} (held : store.held id = some entry) :
    id.IsShort := by
  obtain ⟨state, document, documents⟩ := named id entry held
  exact id.isShort_of_draft documents.short

section
variable {other : SaveStore}

section
variable [Host] (short : id.IsShort) (same : store.held id = other.held id)
include short same

theorem load_short : store.load id = other.load id := by
  unfold held at same
  rw [load, load, read, read, refuses_short short, refuses_short short, same]

theorem contains_short : store.contains id = other.contains id := by
  unfold held at same
  rw [contains, contains, refuses_short short, refuses_short short, ← Assoc.isSome_get?,
    ← Assoc.isSome_get?, same]

theorem delete_short : (∃ failure, store.delete id = .error failure ∧ other.delete id = .error failure) ∨
    (store.delete id = .ok none ∧ other.delete id = .ok none) ∨
    ∃ saves others, store.delete id = .ok (some saves) ∧ other.delete id = .ok (some others) := by
  unfold held at same
  unfold SaveStore.delete
  rw [refuses_short short, refuses_short short, same]
  cases other.entries.get? id.fileName with
  | none => exact .inr (.inl ⟨rfl, rfl⟩)
  | some entry =>
    cases entry with
    | directory => exact .inl ⟨_, rfl, rfl⟩
    | _ => exact .inr (.inr ⟨_, _, rfl, rfl⟩)

end

end

end SaveStore
end Gamebook
