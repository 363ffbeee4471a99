import Gamebook.Proofs.Save.Store
import Gamebook.Save.Request

/-!
The names that a store takes for saves, and the files it then turns to. A name with a line feed at its
end is taken along with the one without.
-/
namespace Gamebook

namespace SaveId

def IsAlphanumeric (c : Char) : Prop :=
  'A' ≤ c ∧ c ≤ 'Z' ∨ 'a' ≤ c ∧ c ≤ 'z' ∨ '0' ≤ c ∧ c ≤ '9'

def IsAllowed (c : Char) : Prop := IsAlphanumeric c ∨ c = '_' ∨ c = '.' ∨ c = '-'

/-- A name that starts with an ASCII letter or digit and goes on with these, underscores, points and
dashes. -/
structure IsProper (name : String) : Prop where
  starts : ∃ first rest, name.toList = first :: rest ∧ IsAlphanumeric first
  allowed : ∀ c ∈ name.toList, IsAllowed c

/-- A proper name, or one with a line feed behind it. -/
def IsAccepted (name : String) : Prop :=
  IsProper name ∨ ∃ front, IsProper front ∧ name = front ++ "\n"

theorem isAlphanum_iff {c : Char} : c.isAlphanum = true ↔ IsAlphanumeric c := by
  have between (low high : Char) :
      (decide (low.val ≤ c.val) && decide (c.val ≤ high.val)) = true ↔ low ≤ c ∧ c ≤ high := by
    rw [Bool.and_eq_true, decide_eq_true_eq, decide_eq_true_eq]
    rfl
  have upper : c.isUpper = true ↔ 'A' ≤ c ∧ c ≤ 'Z' := decide_eq_true_iff
  have lower : c.isLower = true ↔ 'a' ≤ c ∧ c ≤ 'z' := between 'a' 'z'
  have digit : c.isDigit = true ↔ '0' ≤ c ∧ c ≤ '9' := between '0' '9'
  calc c.isAlphanum = true ↔ c.isAlpha = true ∨ c.isDigit = true := Bool.or_eq_true_iff
    _ ↔ (c.isUpper = true ∨ c.isLower = true) ∨ c.isDigit = true := or_congr_left Bool.or_eq_true_iff
    _ ↔ IsAlphanumeric c := by
      rw [upper, lower, digit, or_assoc]
      rfl

theorem isIdChar_iff {c : Char} : isIdChar c = true ↔ IsAllowed c := by
  simp only [isIdChar, Bool.or_eq_true, decide_eq_true_eq, isAlphanum_iff, or_assoc]
  rfl

theorem isPlain_iff {name : String} : isPlain name.toList = true ↔ IsProper name := by
  constructor
  · intro plain
    cases spelled : name.toList with
    | nil =>
      rw [spelled] at plain
      cases plain
    | cons first rest =>
      rw [spelled, isPlain, Bool.and_eq_true, List.all_eq_true] at plain
      have letter := isAlphanum_iff.mp plain.1
      refine ⟨⟨first, rest, spelled, letter⟩, fun c inside => ?_⟩
      rw [spelled] at inside
      rcases List.mem_cons.mp inside with rfl | behind
      · exact .inl letter
      · exact isIdChar_iff.mp (plain.2 c behind)
  · rintro ⟨⟨first, rest, spelled, letter⟩, allowed⟩
    rw [spelled] at allowed ⊢
    rw [isPlain, Bool.and_eq_true, List.all_eq_true]
    exact ⟨isAlphanum_iff.mpr letter, fun c behind => isIdChar_iff.mpr (allowed c (.tail _ behind))⟩

theorem lineFeed_not_allowed : ¬ IsAllowed '\n' := by
  rw [← isIdChar_iff]
  decide

theorem isValid_iff {name : String} : isValid name.toList = true ↔ IsAccepted name := by
  unfold isValid IsAccepted
  -- No proper name ends with a line feed, so where one is dropped the name can only be the second kind.
  by_cases fed : name.toList.getLast? = some '\n'
  · obtain ⟨front, spelled⟩ := List.getLast?_eq_some_iff.mp fed
    have whole : name = String.ofList front ++ "\n" := by
      apply String.toList_inj.mp
      rw [spelled, String.toList_append, String.toList_ofList]
      rfl
    have improper : ¬ IsProper name := by
      intro proper
      exact lineFeed_not_allowed (proper.allowed '\n' (List.mem_of_getLast? fed))
    rw [if_pos fed, spelled, List.dropLast_concat, ← String.toList_ofList (l := front), isPlain_iff]
    constructor
    · intro proper
      exact .inr ⟨_, proper, whole⟩
    · rintro (proper | ⟨other, proper, fedOther⟩)
      · exact absurd proper improper
      · have same : String.ofList front = other := by simpa using whole.symm.trans fedOther
        rwa [same]
  · rw [if_neg fed, isPlain_iff]
    constructor
    · exact .inl
    · rintro (proper | ⟨front, _, rfl⟩)
      · exact proper
      · exact absurd (by simp) fed

end SaveId

namespace SaveStore
variable {store : SaveStore} {id : SaveId} {action : Action} {file name : String}

/-- Stores that differ in one file at most. -/
structure AlikeBut (file : String) (store other : SaveStore) : Prop where
  made : store.directory?.isSome = other.directory?.isSome
  entries : ∀ found, found ≠ file → store.entries.get? found = other.entries.get? found

/-- A name is that of a draft of a save. -/
def IsDraft (name file : String) : Prop :=
  ∃ draft : Host.Draft, file = Host.draftName name draft.letters

/-- An action on a name changes a file, depends on it or drafts in it. -/
def Touches [Host] (name : String) (action : Action) (file : String) : Prop :=
  ∃ store : SaveStore,
    (store.actOn (.text name) action).1.entries.get? file ≠ store.entries.get? file ∨
    (∃ other, AlikeBut file store other ∧
      (store.actOn (.text name) action).2 ≠ (other.actOn (.text name) action).2) ∨
    ∃ id document, id.text = name ∧ action = .write document ∧ file = store.draftOf id document

/-- Once a name is taken, nothing that fails blames it. -/
theorem act_ne_saveId [Host] {value : Value} : (store.act id action).2 ≠ .error (.saveId value) := by
  cases action with
  | find =>
    unfold act contains
    dsimp only
    split <;> exact nofun
  | read =>
    unfold act SaveStore.read
    dsimp only
    repeat' split
    all_goals exact nofun
  | write document =>
    have cases_ := write_cases store id document true
    rw [act_write]
    generalize store.write id document = result at cases_
    cases cases_ <;> rintro ⟨⟩
  | delete =>
    unfold act
    dsimp only
    split
    · exact nofun
    · exact nofun
    · rename_i failed
      rintro ⟨⟩
      unfold SaveStore.delete at failed
      repeat' split at failed
      all_goals cases failed
  | lock => exact nofun

theorem get?_abandon [Host] (other : ¬ IsDraft id.text file) (document : Value) :
    (store.abandon id document).entries.get? file = store.entries.get? file := by
  unfold abandon
  split
  · rfl
  · exact get?_put_other fun same => other ⟨_, same⟩

theorem get?_act_delete [Host] (other : file ≠ id.fileName) :
    (store.act id .delete).1.entries.get? file = store.entries.get? file := by
  unfold act
  dsimp only
  split
  · rename_i next ok
    have differs : ¬ (file == id.fileName) = true := by simpa using other
    rw [entries_delete ok, Assoc.get?_erase, if_neg differs]
  · rfl
  · rfl

theorem get?_act [Host] (other : file ≠ id.fileName) (noDraft : ¬ IsDraft id.text file) :
    (store.act id action).1.entries.get? file = store.entries.get? file := by
  cases action with
  | write document =>
    have abandoned : (store.prepared.abandon id document).entries.get? file =
        store.entries.get? file := get?_abandon noDraft document
    have cases_ := write_cases store id document true
    rw [act_write]
    generalize store.write id document = result at cases_
    cases cases_ with
    | long | directory => rfl
    | unwritable | unsorted => exact abandoned
    | written => exact get?_put_other other
  | delete => exact get?_act_delete other
  | _ => rfl

theorem act_alike [Host] {other : SaveStore} (alike : AlikeBut file store other)
    (apart : file ≠ id.fileName) : (store.act id action).2 = (other.act id action).2 := by
  have refuses : store.refuses id = other.refuses id := by
    rw [SaveStore.refuses, alike.made, SaveStore.refuses]
  have held := alike.entries id.fileName apart.symm
  cases action with
  | find => simp only [act, contains, refuses, ← Assoc.isSome_get?, held]
  | read => simp only [act, read, refuses, held]
  | write document =>
    rw [act_write, act_write]
    exact congrArg (Except.map fun _ => Reply.written) (write_same held document true)
  | delete =>
    unfold act SaveStore.delete
    rw [refuses, held]
    dsimp only
    split_ifs
    · rfl
    · cases other.entries.get? id.fileName with
      | none => rfl
      | some entry => cases entry <;> rfl
  | lock => rfl

theorem actOn_eq [Host] (id : SaveId) (store : SaveStore) :
    store.actOn (.text id.text) action = store.act id action := by
  rw [actOn, SaveId.ofValue_text]

theorem actOn_refused [Host] (refused : ¬ SaveId.IsAccepted name) (store : SaveStore) :
    store.actOn (.text name) action = (store, .error (.saveId (.text name))) := by
  have invalid : SaveId.isValid name.toList = false := by
    rwa [← SaveId.isValid_iff, Bool.not_eq_true] at refused
  rw [actOn, SaveId.ofValue_eq_error.mpr ⟨invalid, rfl⟩]

theorem accepted_of_touches [Host] (touches : Touches name action file) : SaveId.IsAccepted name := by
  by_contra refused
  obtain ⟨store, changed | ⟨other, _, differs⟩ | ⟨id, _, rfl, _⟩⟩ := touches
  · exact changed (by rw [actOn_refused refused])
  · exact differs (by rw [actOn_refused refused, actOn_refused refused])
  · exact refused (SaveId.isValid_iff.mp id.valid)

theorem file_of_touches [Host] (touches : Touches name action file) :
    file = name ++ SaveId.extension ∨ IsDraft name file ∧ ∃ document, action = .write document := by
  obtain ⟨id, rfl⟩ : ∃ id : SaveId, name = id.text :=
    ⟨⟨name, SaveId.isValid_iff.mpr (accepted_of_touches touches)⟩, rfl⟩
  by_contra neither
  obtain ⟨apart, noDraft⟩ := not_or.mp neither
  obtain ⟨store, changed | ⟨other, alike, differs⟩ | ⟨own, document, same, rfl, rfl⟩⟩ := touches
  · refine changed ?_
    rw [actOn_eq]
    by_cases drafted : IsDraft id.text file
    · cases action with
      | write document => exact absurd ⟨drafted, document, rfl⟩ noDraft
      | delete => exact get?_act_delete apart
      | _ => rfl
    · exact get?_act apart drafted
  · exact differs (by rw [actOn_eq, actOn_eq, act_alike alike apart])
  · exact noDraft ⟨⟨_, congrArg (Host.draftName · _) same⟩, document, rfl⟩

theorem allowed_of_all {text : String} (all : text.toList.all SaveId.isIdChar = true) {c : Char}
    (inside : c ∈ text.toList) : SaveId.IsAllowed c :=
  SaveId.isIdChar_iff.mp (List.all_eq_true.mp all c inside)

theorem mem_draftName {draft : Host.Draft} {c : Char}
    (inside : c ∈ (Host.draftName name draft.letters).toList) :
    c ∈ name.toList ∨ SaveId.IsAllowed c := by
  simp only [Host.draftName, String.toList_append, List.mem_append, String.toList_ofList] at inside
  rcases inside with (((opening | named) | between) | drawn) | ending
  · exact .inr (allowed_of_all (by decide) opening)
  · exact .inl named
  · exact .inr (allowed_of_all (by decide) between)
  · rcases draft.drawn c drawn with lower | digit | underscore
    · exact .inr (.inl (.inr (.inl lower)))
    · exact .inr (.inl (.inr (.inr digit)))
    · exact .inr (.inr (.inl underscore))
  · exact .inr (allowed_of_all (by decide) ending)

/-- A file that an action turns to adds nothing but allowed characters to the name. -/
theorem mem_file_of_touches [Host] (touches : Touches name action file) {c : Char}
    (inside : c ∈ file.toList) : c ∈ name.toList ∨ SaveId.IsAllowed c := by
  rcases file_of_touches touches with rfl | ⟨⟨draft, rfl⟩, _⟩
  · rw [String.toList_append, List.mem_append] at inside
    exact inside.imp_right (allowed_of_all (by decide))
  · exact mem_draftName inside

/-- Whatever is done with a save, exactly the accepted names are taken, a refused one changes
nothing, and no file is turned to but the one of that name and drafts where it is written. They
stand in the directory itself, and their names have nothing but allowed characters, unless a line
feed was let through. -/
theorem actOn_guarded [Host] (store : SaveStore) (name : String) (action : Action) :
    (SaveId.IsAccepted name ↔
      ∀ value, (store.actOn (.text name) action).2 ≠ .error (.saveId value)) ∧
    (¬ SaveId.IsAccepted name →
      store.actOn (.text name) action = (store, .error (.saveId (.text name)))) ∧
    ∀ file, Touches name action file →
      (file = name ++ SaveId.extension ∨
        IsDraft name file ∧ ∃ document, action = .write document) ∧ '/' ∉ file.toList ∧
      ((∀ c ∈ file.toList, SaveId.IsAllowed c) ∨
        ∃ front, SaveId.IsProper front ∧ name = front ++ "\n") := by
  refine ⟨⟨fun accepted value => ?taken, fun unblamed => ?accepted⟩, fun refused => ?refused,
    fun file touches => ?file⟩
  case taken =>
    have taken : store.actOn (.text name) action = store.act ⟨name, _⟩ action :=
      actOn_eq ⟨name, SaveId.isValid_iff.mpr accepted⟩ store
    rw [taken]
    exact act_ne_saveId
  case accepted =>
    by_contra refused
    exact unblamed (.text name) (by rw [actOn_refused refused])
  case refused => exact actOn_refused refused store
  case file =>
    -- To lead out of the directory a name needs a slash, which is neither allowed nor a line feed.
    have slash : ¬ SaveId.IsAllowed '/' := by
      rw [← SaveId.isIdChar_iff]
      decide
    refine ⟨file_of_touches touches, ?_⟩
    rcases accepted_of_touches touches with proper | ⟨front, proper, rfl⟩
    · have allowed : ∀ c ∈ file.toList, SaveId.IsAllowed c := fun c inside =>
        (mem_file_of_touches touches inside).elim (proper.allowed c) id
      exact ⟨fun inside => slash (allowed _ inside), .inl allowed⟩
    · refine ⟨fun inside => ?_, .inr ⟨front, proper, rfl⟩⟩
      rcases mem_file_of_touches touches inside with named | allowed
      · rw [String.toList_append, List.mem_append] at named
        rcases named with before | fed
        · exact slash (proper.allowed _ before)
        · exact absurd fed (by decide)
      · exact slash allowed

open scoped Host in
theorem actOn_guarded_lineFeed : ¬ SaveId.IsProper "a\n" ∧
    (∀ value, (empty.actOn (.text "a\n") .find).2 ≠ .error (.saveId value)) ∧
    ∃ file, Touches "a\n" .find file ∧ file = "a\n" ++ SaveId.extension := by
  have improper : ¬ SaveId.IsProper "a\n" := by
    rw [← SaveId.isPlain_iff]
    decide
  have proper : SaveId.IsProper "a" := SaveId.isPlain_iff.mp (by decide)
  obtain ⟨accepts, _, files⟩ := actOn_guarded empty "a\n" .find
  have touches : Touches "a\n" .find "a\n.json" :=
    ⟨empty.prepared, .inr <| .inl ⟨empty.prepared.put "a\n.json" .garbled, ⟨rfl, fun found differs =>
      (get?_put_other differs).symm⟩, nofun⟩⟩
  refine ⟨improper, accepts.mp (.inr ⟨"a", proper, rfl⟩), _, touches, ?_⟩
  rcases (files _ touches).1 with same | ⟨_, _, ⟨⟩⟩
  exact same

end SaveStore
end Gamebook
