import Gamebook.Proofs.Outcome
import Gamebook.Proofs.Table

/-!
What the files of saves hold after the operations of a store: writing changes one file, making the
directory and deleting what is not there change none.
-/
namespace Gamebook

namespace SaveId

theorem fileName_injective : Function.Injective fileName := by
  intro a b same
  obtain ⟨a, valid⟩ := a
  obtain ⟨b, others⟩ := b
  obtain rfl : a = b := by simpa [fileName] using same
  rfl

theorem ofValue_eq_ok {value : Value} {id : SaveId} (ok : ofValue value = .ok id) :
    value = .text id.text := by
  unfold ofValue at ok
  split at ok
  · rename_i found
    cases ok
    cases value with
    | text content =>
      rw [Value.text?, Option.bind_some, ofText?] at found
      split at found <;> cases found
      rfl
    | _ => cases found
  · exact absurd ok Failure.showing_ne_ok

/-- Whether the file of a save can be looked up by its name. -/
def IsShort [Host] (id : SaveId) : Prop :=
  id.fileName.length ≤ Host.naming ∧ id.fileName.length ≤ Host.room

theorem ofValue_text (id : SaveId) : ofValue (.text id.text) = .ok id := by
  unfold ofValue
  rw [Value.text?, Option.bind_some, ofText?, dif_pos id.valid]

theorem ofValue_eq_error {name : String} {failure : Failure} :
    ofValue (.text name) = .error failure ↔
      isValid name.toList = false ∧ failure = .saveId (.text name) := by
  unfold ofValue
  rw [Value.text?, Option.bind_some, ofText?]
  by_cases valid : isValid name.toList = true
  · rw [dif_pos valid, valid]
    exact ⟨nofun, fun both => nomatch both.1⟩
  · rw [dif_neg valid]
    exact ⟨by rintro ⟨⟩; exact ⟨eq_false_of_ne_true valid, rfl⟩, by rintro ⟨_, rfl⟩; rfl⟩

theorem isValid_underscore (rest : List Char) : isValid ('_' :: rest) = false := by
  unfold isValid
  split
  · cases rest <;> rfl
  · rfl

theorem filled (id : SaveId) : id.text ≠ "" := by
  intro empty
  have valid := id.valid
  rw [empty] at valid
  cases valid

/-- Drafts have longer names than saves. -/
theorem isShort_of_draft [Host] (id : SaveId)
    (short : id.text.length + SaveStore.draftMarks ≤ Host.drafting) : id.IsShort := by
  have marks : SaveStore.draftMarks = 14 := rfl
  have longer : id.fileName.length = id.text.length + 5 := String.length_append id.text extension
  have named := Host.drafting_naming
  have roomed := Host.drafting_room
  unfold IsShort
  omega

theorem length_draftName (id : SaveId) (draft : Host.Draft) :
    (Host.draftName id.text draft.letters).length = id.text.length + SaveStore.draftMarks := by
  have marks : SaveStore.draftMarks = 14 := rfl
  simp only [Host.draftName, String.length_append, String.length_ofList, draft.eight]
  rw [marks, show ".".length = 1 from rfl, show ".tmp".length = 4 from rfl]
  omega

/-- No save has the name of a draft, which starts with a point. -/
theorem fileName_ne_draft (id : SaveId) (save : String) (letters : List Char) :
    id.fileName ≠ Host.draftName save letters := by
  intro same
  have valid := id.valid
  cases spelled : id.text.toList with
  | nil =>
    rw [spelled] at valid
    cases valid
  | cons first rest =>
    have point : first = '.' := by
      have chars := congrArg String.toList same
      simp only [fileName, Host.draftName, String.toList_append, spelled] at chars
      exact (List.cons.inj chars).1
    rw [spelled, point] at valid
    unfold isValid at valid
    split at valid
    · cases rest <;> cases valid
    · cases valid

end SaveId

namespace SaveStore
variable {store : SaveStore} {id : SaveId}

theorem refuses_short [Host] (short : id.IsShort) (store : SaveStore) : store.refuses id = false := by
  have named : ¬ Host.naming < id.fileName.length := Nat.not_lt.mpr short.1
  have roomed : ¬ Host.room < id.fileName.length := Nat.not_lt.mpr short.2
  rw [refuses, decide_eq_false named, decide_eq_false roomed, Bool.and_false, Bool.or_self]

/-- What stands in the file of a save. -/
def held (store : SaveStore) (id : SaveId) : Option Entry := store.entries.get? id.fileName

/-- Every file of a save holds the same in both stores, and reads as the same document. -/
def SameSaves [Host] (store other : SaveStore) : Prop :=
  ∀ id, store.held id = other.held id ∧ (store.read id).toOption = (other.read id).toOption

theorem SameSaves.refl [Host] (store : SaveStore) : store.SameSaves store := fun _ => ⟨rfl, rfl⟩

theorem SameSaves.trans [Host] {store between other : SaveStore} (first : store.SameSaves between)
    (second : between.SameSaves other) : store.SameSaves other :=
  fun id => ⟨(first id).1.trans (second id).1, (first id).2.trans (second id).2⟩

theorem toOption_read [Host] (absent : store.held id = none) : (store.read id).toOption = none := by
  unfold held at absent
  unfold read
  rw [absent]
  split <;> rfl

theorem prepared_sameSaves [Host] (store : SaveStore) : store.prepared.SameSaves store := by
  intro id
  refine ⟨rfl, ?_⟩
  obtain ⟨directory⟩ := store
  cases directory with
  | some entries => rfl
  | none => exact (toOption_read rfl).trans (toOption_read rfl).symm

@[simp] theorem held_put {entry : Entry} : (store.put id.fileName entry).held id = some entry := by
  unfold held put entries
  exact Assoc.get?_insert_self entry (beq_self_eq_true _)

theorem get?_put_other {file other : String} {entry : Entry} (differs : other ≠ file) :
    (store.put file entry).entries.get? other = store.entries.get? other := by
  refine Assoc.get?_insert_other entry ?_ (by simpa using differs.symm)
  intro found same
  rw [beq_iff_eq.mp same]
  simpa using differs.symm

theorem held_put_other {other : SaveId} {entry : Entry} (differs : other.fileName ≠ id.fileName) :
    (store.put id.fileName entry).held other = store.held other := get?_put_other differs

theorem read_of_held [Host] {other : SaveStore} (made : store.directory?.isSome = true)
    (otherMade : other.directory?.isSome = true) (same : store.held id = other.held id) :
    store.read id = other.read id := by
  unfold SaveStore.held at same
  unfold read refuses
  rw [made, otherMade, same]

theorem sameSaves_of_held [Host] {other : SaveStore} (made : store.directory?.isSome = true)
    (otherMade : other.directory?.isSome = true) (same : ∀ id, store.held id = other.held id) :
    store.SameSaves other :=
  fun id => ⟨same id, congrArg _ (read_of_held made otherMade (same id))⟩

theorem made_of_held {entry : Entry} (held : store.held id = some entry) :
    store.directory?.isSome = true := by
  obtain ⟨directory⟩ := store
  cases directory with
  | some entries => rfl
  | none => cases held

/-- Putting something in a file changes nothing exactly if it is what the file holds. -/
theorem put_sameSaves_iff [Host] {entry : Entry} :
    (store.put id.fileName entry).SameSaves store ↔ store.held id = some entry := by
  constructor
  · intro same
    rw [← (same id).1, held_put]
  · intro held
    refine sameSaves_of_held rfl (made_of_held held) fun other => ?_
    by_cases differs : other.fileName = id.fileName
    · rw [SaveStore.held, differs]
      exact held_put.trans (held.symm.trans (by rw [SaveStore.held, SaveStore.held, differs]))
    · exact held_put_other differs

theorem load_eq_ok [Host] {state : GameState} : store.load id = .ok state ↔
    ∃ document, store.read id = .ok document ∧ Snapshot.restore (.object document) = .ok state := by
  unfold load
  cases store.read id with
  | error failure => cases failure <;> simp
  | ok document =>
    simp only [Except.ok.injEq, exists_eq_left']
    cases Snapshot.restore (.object document) with
    | error failure => cases failure <;> simp
    | ok restored => rfl

theorem held_of_load [Host] {state : GameState} (ok : store.load id = .ok state) :
    ∃ entry, store.held id = some entry := by
  obtain ⟨document, read, _⟩ := load_eq_ok.mp ok
  unfold SaveStore.held
  unfold SaveStore.read at read
  split at read
  · cases read
  · cases held : store.entries.get? id.fileName with
    | none =>
      rw [held] at read
      cases read
    | some entry => exact ⟨entry, rfl⟩

theorem made_of_load [Host] {state : GameState} (ok : store.load id = .ok state) :
    store.directory?.isSome = true := by
  obtain ⟨entry, held⟩ := held_of_load ok
  exact made_of_held held

/-- What becomes of writing a document, in the order in which it is found out. -/
inductive Writing [Host] (store : SaveStore) (id : SaveId) (document : Value) (isSortable : Bool) :
    SaveStore × Outcome Unit → Prop
  | long (long : Host.drafting < id.text.length + draftMarks) :
      Writing store id document isSortable (store.prepared, .error (.fault .nameTooLong))
  | unwritable (short : id.text.length + draftMarks ≤ Host.drafting)
      (long : document.isWritable = false) : Writing store id document isSortable
        (store.prepared.abandon id document, .error (.fault .badValue))
  | unsorted (short : id.text.length + draftMarks ≤ Host.drafting)
      (writable : document.isWritable = true) (mixed : isSortable = false) :
      Writing store id document isSortable
        (store.prepared.abandon id document, .error (.fault .wrongKind))
  | directory (short : id.text.length + draftMarks ≤ Host.drafting)
      (writable : document.isWritable = true) (sortable : isSortable = true)
      (blocked : store.held id = some .directory) : Writing store id document isSortable
        (store.prepared, .error (.save (.unwritable id.text)))
  | written (short : id.text.length + draftMarks ≤ Host.drafting)
      (writable : document.isWritable = true) (sortable : isSortable = true)
      (free : store.held id ≠ some .directory) : Writing store id document isSortable
        (store.put id.fileName (.text (Json.write .file document)), .ok ())

theorem write_cases [Host] (store : SaveStore) (id : SaveId) (document : Value) (isSortable : Bool) :
    store.Writing id document isSortable (store.write id document isSortable) := by
  unfold write
  dsimp only
  split
  · rename_i long
    exact .long long
  rename_i short
  have short := Nat.le_of_not_lt short
  split
  · rename_i long
    exact .unwritable short (by simpa using long)
  rename_i writable
  have writable : document.isWritable = true := by simpa using writable
  split
  · rename_i mixed
    exact .unsorted short writable (by simpa using mixed)
  rename_i sortable
  have sortable : isSortable = true := by simpa using sortable
  split
  · rename_i blocked
    exact .directory short writable sortable blocked
  · rename_i free
    exact .written short writable sortable free

theorem abandon_sameSaves [Host] (made : store.directory?.isSome = true) (document : Value) :
    (store.abandon id document).SameSaves store := by
  unfold abandon
  split
  · exact .refl store
  · exact sameSaves_of_held rfl made fun other => get?_put_other (other.fileName_ne_draft _ _)

/-- What cannot be written leaves every save as it was. -/
theorem write_spares [Host] {document : Value} {isSortable : Bool} {failure : Failure}
    (failed : (store.write id document isSortable).2 = .error failure) :
    (store.write id document isSortable).1.SameSaves store := by
  have prepared := prepared_sameSaves store
  have abandoned : (store.prepared.abandon id document).SameSaves store :=
    (abandon_sameSaves rfl document).trans prepared
  have cases_ := write_cases store id document isSortable
  generalize store.write id document isSortable = result at failed cases_
  cases cases_ with
  | long | directory => exact prepared
  | unwritable | unsorted => exact abandoned
  | written => cases failed

/-- How a write is answered depends on nothing but the file of its save. -/
theorem write_same [Host] {other : SaveStore} (same : store.held id = other.held id)
    (document : Value) (isSortable : Bool) :
    (store.write id document isSortable).2 = (other.write id document isSortable).2 := by
  have prepared : store.prepared.entries.get? id.fileName = other.prepared.entries.get? id.fileName :=
    same
  unfold write
  dsimp only
  rw [prepared]
  split_ifs <;> rfl

theorem write_eq_ok [Host] {document : Value} {isSortable : Bool}
    (ok : (store.write id document isSortable).2 = .ok ()) :
    (store.write id document isSortable).1 = store.put id.fileName (.text (Json.write .file document)) ∧
      isSortable = true ∧ document.isWritable = true ∧
      id.text.length + draftMarks ≤ Host.drafting := by
  have cases_ := write_cases store id document isSortable
  generalize store.write id document isSortable = result at ok cases_ ⊢
  cases cases_ with
  | written short writable sortable free => exact ⟨rfl, sortable, writable, short⟩
  | _ => cases ok

theorem write_eq_error [Host] {document : Value}
    (free : store.held id ≠ some .directory) {failure : Failure} :
    (store.write id document).2 = .error failure ↔
      Host.drafting < id.text.length + draftMarks ∧ failure = .fault .nameTooLong ∨
      id.text.length + draftMarks ≤ Host.drafting ∧ document.isWritable = false ∧
        failure = .fault .badValue := by
  have cases_ := write_cases store id document true
  generalize store.write id document = result at cases_ ⊢
  constructor
  · rintro failed
    cases cases_ with
    | long long => exact .inl ⟨long, (Except.error.inj failed).symm⟩
    | unwritable short long => exact .inr ⟨short, long, (Except.error.inj failed).symm⟩
    | unsorted _ _ mixed => cases mixed
    | directory _ _ _ blocked => exact absurd blocked free
    | written => cases failed
  · rintro (⟨tooLong, rfl⟩ | ⟨fits, unwritable, rfl⟩)
    · cases cases_ with
      | long => rfl
      | unwritable short | unsorted short | directory short | written short =>
        exact absurd tooLong (Nat.not_lt.mpr short)
    · cases cases_ with
      | long long => exact absurd long (Nat.not_lt.mpr fits)
      | unwritable => rfl
      | unsorted _ writable | directory _ writable | written _ writable =>
        cases unwritable.symm.trans writable

/-- Every save holds something of a kind. -/
def Every (kind : SaveId → Entry → Prop) (store : SaveStore) : Prop :=
  ∀ id entry, store.held id = some entry → kind id entry

section
variable {kind : SaveId → Entry → Prop} {other : SaveStore}

theorem empty_every : empty.Every kind := nofun

theorem Every.of_same [Host] (every : store.Every kind) (same : other.SameSaves store) :
    other.Every kind := by
  intro id entry held
  exact every id entry ((same id).1 ▸ held)

theorem Every.put (every : store.Every kind) {entry : Entry} (good : kind id entry) :
    (store.put id.fileName entry).Every kind := by
  intro found content held
  by_cases same : found = id
  · rw [same, held_put] at held
    cases held
    exact same ▸ good
  · rw [held_put_other fun named => same (SaveId.fileName_injective named)] at held
    exact every found content held

theorem entries_delete [Host] (ok : store.delete id = .ok (some other)) :
    other.entries = store.entries.erase id.fileName := by
  unfold SaveStore.delete at ok
  split at ok
  · cases ok
  · split at ok <;> cases ok
    obtain ⟨directory⟩ := store
    cases directory <;> rfl

theorem held_delete [Host] (ok : store.delete id = .ok (some other)) :
    other.held id = none ∧ ∀ found, found ≠ id → other.held found = store.held found := by
  have erased := entries_delete ok
  constructor
  · rw [held, erased, Assoc.get?_erase, if_pos (beq_self_eq_true _)]
  · intro found apart
    have differs : ¬ (found.fileName == id.fileName) = true := fun same =>
      apart (SaveId.fileName_injective (beq_iff_eq.mp same))
    rw [held, erased, Assoc.get?_erase, if_neg differs, held]

theorem held_of_delete [Host] (ok : store.delete id = .ok (some other)) :
    ∃ entry, store.held id = some entry := by
  unfold SaveStore.held
  unfold SaveStore.delete at ok
  split at ok
  · cases ok
  · cases found : store.entries.get? id.fileName with
    | none =>
      rw [found] at ok
      cases ok
    | some entry => exact ⟨entry, rfl⟩

theorem Every.delete [Host] (every : store.Every kind) (ok : store.delete id = .ok (some other)) :
    other.Every kind := by
  intro found entry held
  by_cases same : found = id
  · rw [same, (held_delete ok).1] at held
    cases held
  · rw [(held_delete ok).2 found same] at held
    exact every found entry held

end

end SaveStore
end Gamebook
