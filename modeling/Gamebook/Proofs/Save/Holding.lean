import Gamebook.Proofs.Json.RoundTrip
import Gamebook.Proofs.Save.Naming
import Gamebook.Proofs.State.Saving

/-!
Stores that hold nothing but games that were written to them, each under its own name. Such a save
is loaded exactly if no number in it is too large, and what is loaded differs from what was written
at most in the order of its tables.
-/
namespace Gamebook

/-- What the file of a save holds once contents were written to it. -/
structure SaveId.Keeps [Host] (id : SaveId) (contents : GameState.Contents) (entry : Entry) : Prop
    extends id.Documents contents.state contents.document entry where
  storable : contents.Storable
  deep : Value.entriesDepth contents.flags ≤ Host.copying

namespace SaveStore
variable {store other : SaveStore} {id : SaveId} {contents : GameState.Contents} {entry : Entry}

/-- Every save is that of a game. -/
def Own [Host] (store : SaveStore) :
    Prop := store.Every fun id entry => ∃ contents, id.Keeps contents entry

theorem Own.named [Host] (own : store.Own) : store.Named := by
  intro id entry held
  obtain ⟨contents, keeps⟩ := own id entry held
  exact ⟨contents.state, contents.document, keeps.toDocuments⟩

theorem read_kept [Host] (held : store.held id = some entry) (keeps : id.Keeps contents entry) :
    store.read id = .ok (Table.sorted contents.document) := by
  obtain ⟨plain, depth⟩ := GameState.Contents.isPlain_document keeps.storable keeps.deep
  have back := Json.read_write plain keeps.writable depth
  unfold SaveStore.held at held
  rw [read, refuses_short (id.isShort_of_draft keeps.short), held, keeps.written]
  dsimp only
  generalize Json.read (Json.write .file (.object contents.document)) = found at back
  rw [back]
  rfl

theorem load_kept [Host] (held : store.held id = some entry) (keeps : id.Keeps contents entry)
    (state : GameState) :
    store.load id = .ok state ↔ contents.Sized ∧ state = contents.sorted.state := by
  rw [load_eq_ok, read_kept held keeps, ← GameState.Contents.restore_document keeps.storable keeps.deep,
    Value.sorted_object]
  constructor
  · rintro ⟨_, ⟨⟩, restored⟩
    exact restored
  · intro restored
    exact ⟨_, rfl, restored⟩

/-- Looking for a save only fails where its name is too long for its drafts, too. -/
theorem Own.contains_cases [Host] (own : store.Own) (id : SaveId) :
    (∃ entry, store.held id = some entry ∧ store.contains id = .ok true) ∨
      store.held id = none ∧ (store.contains id = .ok false ∨
        Host.drafting < id.text.length + draftMarks ∧
          store.contains id = .error (.fault .nameTooLong)) := by
  have found : ¬ store.refuses id = true → store.contains id = .ok (store.held id).isSome := by
    intro taken
    rw [contains, if_neg taken, held, Assoc.isSome_get?]
  cases held : store.held id with
  | some entry =>
    obtain ⟨contents, keeps⟩ := own id entry held
    have short := refuses_short (id.isShort_of_draft keeps.short) store
    rw [held] at found
    exact .inl ⟨entry, rfl, found (by simp [short])⟩
  | none =>
    refine .inr ⟨rfl, ?_⟩
    by_cases refused : store.refuses id = true
    · refine .inr ⟨Nat.lt_of_not_le fun short => ?_, by rw [contains, if_pos refused]⟩
      rw [refuses_short (id.isShort_of_draft short)] at refused
      cases refused
    · rw [held] at found
      exact .inl (found refused)

end SaveStore
end Gamebook
