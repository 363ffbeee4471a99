import Gamebook.Proofs.Value.Equality
import Gamebook.Value.Dict

/-!
Values with all their objects in ascending order of names. No look-up and no comparison of values
can tell a value from the sorted one.
-/
namespace Gamebook

namespace Text

theorem before_asymm {a b : String} (first : before a b = true) : before b a = false := by
  simp only [before, decide_eq_true_eq] at first
  simp only [before, decide_eq_false_iff_not]
  exact List.lt_asymm first

theorem not_before_trans {a b c : String} (first : before b a = false) (second : before c b = false) :
    before c a = false := by
  simp only [before, decide_eq_false_iff_not] at *
  exact List.le_trans (α := Nat) first second

end Text

namespace Value

/-- Whether a key comes before another; those that are no texts come last, in any order. -/
def keyBefore : Value → Value → Bool
  | .text a, .text b => Text.before a b
  | .text _, _ => true
  | _, _ => false

mutual

def sorted : Value → Value
  | .list items => .list (sortedItems items)
  | .tuple items => .tuple (sortedItems items)
  | .object fields => .object ((sortedFields fields).mergeSort fun a b => !Text.before b.1 a.1)
  | .view entries => .view ((sortedEntries entries).mergeSort fun a b => !keyBefore b.1 a.1)
  | value => value

def sortedItems : List Value → List Value
  | [] => []
  | item :: items => item.sorted :: sortedItems items

def sortedFields : List (String × Value) → List (String × Value)
  | [] => []
  | (name, entry) :: fields => (name, entry.sorted) :: sortedFields fields

def sortedEntries : List (Value × Value) → List (Value × Value)
  | [] => []
  | (key, entry) :: entries => (key, entry.sorted) :: sortedEntries entries

end

@[simp] theorem sortedItems_eq_map (items : List Value) : sortedItems items = items.map sorted := by
  induction items with
  | nil => rfl
  | cons item items ih => rw [sortedItems, ih, List.map_cons]

@[simp] theorem sortedFields_eq_map (fields : List (String × Value)) :
    sortedFields fields = fields.map fun field => (field.1, field.2.sorted) := by
  induction fields with
  | nil => rfl
  | cons field fields ih => rw [sortedFields, ih, List.map_cons]

@[simp] theorem sortedEntries_eq_map (entries : List (Value × Value)) :
    sortedEntries entries = entries.map fun entry => (entry.1, entry.2.sorted) := by
  induction entries with
  | nil => rfl
  | cons entry entries ih => rw [sortedEntries, ih, List.map_cons]

theorem keyBefore_asymm {a b : Value} (first : keyBefore a b = true) : keyBefore b a = false := by
  cases a with
  | text a =>
    cases b with
    | text b => exact Text.before_asymm first
    | _ => rfl
  | _ => cases first

theorem not_keyBefore_trans {a b c : Value} (first : keyBefore b a = false)
    (second : keyBefore c b = false) : keyBefore c a = false := by
  cases c with
  | text c =>
    cases b with
    | text b =>
      cases a with
      | text a => exact Text.not_before_trans first second
      | _ => cases first
    | _ => cases second
  | _ => rfl

end Value

/-- A search for one of several entries that sorting leaves in their order. -/
theorem find?_mergeSort {α : Type} {le : α → α → Bool}
    (trans : ∀ a b c, le a b = true → le b c = true → le a c = true)
    (total : ∀ a b, (le a b || le b a) = true) (list : List α) {found : α → Bool}
    (tied : ∀ a b, found a = true → found b = true → le a b = true) :
    (list.mergeSort le).find? found = list.find? found := by
  have ordered : (list.filter found).Pairwise (le · ·) := by
    refine List.pairwise_of_forall_mem_list fun a first b second => ?_
    exact tied a b (List.mem_filter.mp first).2 (List.mem_filter.mp second).2
  have inside : (list.filter found).Sublist ((list.mergeSort le).filter found) := by
    have kept := (List.sublist_mergeSort trans total ordered List.filter_sublist).filter found
    simpa only [List.filter_filter, Bool.and_self] using kept
  have same : (list.filter found).length = ((list.mergeSort le).filter found).length :=
    ((List.mergeSort_perm list le).filter found).length_eq.symm
  rw [← List.head?_filter, ← List.head?_filter, inside.eq_of_length same]

theorem Text.names_trans (a b c : String) (first : (!before b a) = true)
    (second : (!before c b) = true) : (!before c a) = true := by
  simp only [Bool.not_eq_true'] at *
  exact not_before_trans first second

theorem Text.names_total (a b : String) : (!before b a || !before a b) = true := by
  cases below : before b a with
  | false => rfl
  | true => simp [before_asymm below]

theorem Text.fields_trans {α : Type} (a b c : String × α) (first : (!before b.1 a.1) = true)
    (second : (!before c.1 b.1) = true) : (!before c.1 a.1) = true :=
  names_trans a.1 b.1 c.1 first second

theorem Text.fields_total {α : Type} (a b : String × α) :
    (!before b.1 a.1 || !before a.1 b.1) = true :=
  names_total a.1 b.1

theorem Text.not_before_self (name : String) : before name name = false := by
  cases below : before name name with
  | false => rfl
  | true => exact below.symm.trans (before_asymm below)

/-- What is done to entries alone can be done before or after sorting. -/
theorem Text.map_mergeSort {α β : Type} (table : Table α) (change : α → β) :
    (table.mergeSort fun a b => !before b.1 a.1).map (fun field => (field.1, change field.2)) =
      (table.map fun field => (field.1, change field.2)).mergeSort fun a b => !before b.1 a.1 :=
  List.map_mergeSort fun _ _ _ _ => rfl

theorem Text.find?_sorted {α : Type} (table : Table α) (name : String) :
    (table.mergeSort fun a b => !Text.before b.1 a.1).find? (·.1 == name) =
      table.find? (·.1 == name) := by
  refine find?_mergeSort fields_trans fields_total table fun a b first second => ?_
  rw [beq_iff_eq.mp first, beq_iff_eq.mp second, not_before_self, Bool.not_false]

namespace Value

theorem entries_trans (a b c : Value × Value) (first : (!keyBefore b.1 a.1) = true)
    (second : (!keyBefore c.1 b.1) = true) : (!keyBefore c.1 a.1) = true := by
  simp only [Bool.not_eq_true'] at *
  exact not_keyBefore_trans first second

theorem entries_total (a b : Value × Value) : (!keyBefore b.1 a.1 || !keyBefore a.1 b.1) = true := by
  cases below : keyBefore b.1 a.1 with
  | false => rfl
  | true => simp [keyBefore_asymm below]

theorem map_mergeSort {α β : Type} (entries : List (Value × α)) (change : α → β) :
    (entries.mergeSort fun a b => !keyBefore b.1 a.1).map (fun entry => (entry.1, change entry.2)) =
      (entries.map fun entry => (entry.1, change entry.2)).mergeSort
        fun a b => !keyBefore b.1 a.1 := List.map_mergeSort fun _ _ _ _ => rfl

theorem find?_sorted (dict : Dict) (found : Value → Bool)
    (tied : ∀ a b, found a = true → found b = true → keyBefore b a = false) :
    (dict.mergeSort fun a b => !keyBefore b.1 a.1).find? (fun entry => found entry.1) =
      dict.find? fun entry => found entry.1 := by
  refine find?_mergeSort entries_trans entries_total dict fun a b first second => ?_
  simpa using tied a.1 b.1 first second

/-- Keys that are equal to a third are not apart. -/
theorem keyBefore_of_scalar {a b key : Value} (first : sameScalar a key = true)
    (second : sameScalar b key = true) : keyBefore b a = false := by
  cases b with
  | text b =>
    cases key with
    | text key =>
      cases a with
      | text a =>
        obtain rfl : a = key := by simpa [sameScalar] using first
        obtain rfl : b = a := by simpa [sameScalar] using second
        exact Text.not_before_self b
      | _ => simp [sameScalar, countable?, number?] at first
    | _ => simp [sameScalar, countable?, number?] at second
  | _ => rfl

end Value

/-- A table in ascending order of its keys, with sorted entries. -/
def Dict.sorted (dict : Dict) : Dict :=
  (dict.map fun entry => (entry.1, entry.2.sorted)).mergeSort fun a b => !Value.keyBefore b.1 a.1

theorem Dict.length_sorted (dict : Dict) : dict.sorted.length = dict.length := by
  simp [Dict.sorted]

namespace Value

theorem sorted_view (entries : Dict) : (Value.view entries).sorted = .view entries.sorted := by
  rw [sorted, sortedEntries_eq_map, Dict.sorted]

theorem entries?_sorted (value : Value) : value.sorted.entries? = value.entries?.map Dict.sorted := by
  cases value with
  | object fields =>
    have keyed (list : List (String × Value)) :
        (list.mergeSort fun a b => !Text.before b.1 a.1).map (fun field => (text field.1, field.2)) =
          (list.map fun field => (text field.1, field.2)).mergeSort fun a b => !keyBefore b.1 a.1 :=
      List.map_mergeSort fun _ _ _ _ => rfl
    simp only [sorted, sortedFields_eq_map, entries?, Option.map_some, Dict.sorted, List.map_map]
    rw [keyed, List.map_map]
    rfl
  | view entries => simp [sorted_view, entries?]
  | _ => rfl

theorem items?_sorted (value : Value) :
    value.sorted.items? = value.items?.map (·.map sorted) := by
  cases value <;> simp [sorted, items?]

theorem entryUnder?_sorted (dict : Dict) (key : Value) :
    entryUnder? dict.sorted key = (entryUnder? dict key).map sorted := by
  unfold entryUnder? Dict.sorted
  rw [find?_sorted _ (sameScalar · key) fun a b => keyBefore_of_scalar, List.find?_map]
  simp [Function.comp_def]

@[simp] theorem countable?_sorted (value : Value) : value.sorted.countable? = value.countable? := by
  cases value <;> simp [sorted, countable?, number?]

@[simp] theorem isNaN_sorted (value : Value) : value.sorted.isNaN = value.isNaN := by
  cases value <;> simp [sorted, isNaN]

@[simp] theorem sameScalar_sorted (a b : Value) : sameScalar a b.sorted = sameScalar a b := by
  cases b <;> cases a <;> simp [sorted, sameScalar, countable?, number?]

theorem sameFields_eq_all (fields : List (String × Value)) (others : Dict) :
    sameFields fields others = fields.all fun field =>
      (entryUnder? others (.text field.1)).any (same field.2) := by
  induction fields with
  | nil => simp [sameFields]
  | cons field fields ih =>
    rw [sameFields, List.all_cons, ih]
    cases entryUnder? others (.text field.1) <;> rfl

theorem sameEntries_eq_all (entries others : Dict) :
    sameEntries entries others = entries.all fun entry =>
      (entryUnder? others entry.1).any (same entry.2) := by
  induction entries with
  | nil => simp [sameEntries]
  | cons entry entries ih =>
    rw [sameEntries, List.all_cons, ih]
    cases entryUnder? others entry.1 <;> rfl

mutual

theorem same_sorted (a b : Value) : same a.sorted b.sorted = same a b := by
  cases a with
  | list items =>
    cases b with
    | list others => simpa [sorted, same] using sameItems_sorted items others
    | _ => simp [sorted, same, sameScalar, countable?, number?]
  | tuple items =>
    cases b with
    | tuple others => simpa [sorted, same] using sameItems_sorted items others
    | _ => simp [sorted, same, sameScalar, countable?, number?]
  | object fields =>
    rw [sorted, same, same, entries?_sorted]
    cases b.entries? with
    | none => rfl
    | some others =>
      dsimp only [Option.map_some]
      rw [← sameFields_sorted fields others, sameFields_eq_all, sameFields_eq_all]
      simp only [(List.mergeSort_perm _ _).all_eq, List.length_mergeSort,
        Dict.length_sorted, sortedFields_eq_map, List.length_map]
  | view entries =>
    rw [sorted, same, same, entries?_sorted]
    cases b.entries? with
    | none => rfl
    | some others =>
      dsimp only [Option.map_some]
      rw [← sameEntries_sorted entries others, sameEntries_eq_all, sameEntries_eq_all]
      simp only [(List.mergeSort_perm _ _).all_eq, List.length_mergeSort,
        Dict.length_sorted, sortedEntries_eq_map, List.length_map]
  | _ => simp [sorted, same]
termination_by structural a

theorem sameItems_sorted (items others : List Value) :
    sameItems (items.map sorted) (others.map sorted) = sameItems items others := by
  cases items with
  | nil => cases others <;> simp [sameItems]
  | cons item items =>
    cases others with
    | nil => simp [sameItems]
    | cons other others =>
      simp [sameItems, same_sorted item other, sameItems_sorted items others]
termination_by structural items

theorem sameFields_sorted (fields : List (String × Value)) (others : Dict) :
    sameFields (sortedFields fields) others.sorted = sameFields fields others := by
  cases fields with
  | nil => simp [sortedFields, sameFields]
  | cons field fields =>
    obtain ⟨name, entry⟩ := field
    rw [sortedFields, sameFields, sameFields, sameFields_sorted fields others, entryUnder?_sorted]
    cases entryUnder? others (.text name) with
    | none => rfl
    | some other => simp [same_sorted entry other]
termination_by structural fields

theorem sameEntries_sorted (entries others : Dict) :
    sameEntries (sortedEntries entries) others.sorted = sameEntries entries others := by
  cases entries with
  | nil => simp [sortedEntries, sameEntries]
  | cons first entries =>
    obtain ⟨key, entry⟩ := first
    rw [sortedEntries, sameEntries, sameEntries, sameEntries_sorted entries others, entryUnder?_sorted]
    cases entryUnder? others key with
    | none => rfl
    | some other => simp [same_sorted entry other]
termination_by structural entries

end

mutual

@[simp] theorem sorted_sorted (a : Value) : a.sorted.sorted = a.sorted := by
  cases a with
  | list items => rw [sorted, sorted, sortedItems_sorted items]
  | tuple items => rw [sorted, sorted, sortedItems_sorted items]
  | object fields =>
    have mapped : sortedFields ((sortedFields fields).mergeSort fun a b => !Text.before b.1 a.1) =
        (sortedFields fields).mergeSort fun a b => !Text.before b.1 a.1 := by
      rw [sortedFields_eq_map ((sortedFields fields).mergeSort _), Text.map_mergeSort,
        ← sortedFields_eq_map, sortedFields_sorted fields]
    rw [sorted, sorted, mapped, List.mergeSort_of_pairwise
      (List.pairwise_mergeSort Text.fields_trans Text.fields_total _)]
  | view entries =>
    have mapped : sortedEntries ((sortedEntries entries).mergeSort fun a b => !keyBefore b.1 a.1) =
        (sortedEntries entries).mergeSort fun a b => !keyBefore b.1 a.1 := by
      rw [sortedEntries_eq_map ((sortedEntries entries).mergeSort _), map_mergeSort,
        ← sortedEntries_eq_map, sortedEntries_sorted entries]
    rw [sorted, sorted, mapped, List.mergeSort_of_pairwise
      (List.pairwise_mergeSort entries_trans entries_total _)]
  | _ => simp only [sorted]
termination_by structural a

theorem sortedItems_sorted (items : List Value) :
    sortedItems (sortedItems items) = sortedItems items := by
  cases items with
  | nil => rfl
  | cons item items => rw [sortedItems, sortedItems, sorted_sorted item, sortedItems_sorted items]
termination_by structural items

theorem sortedFields_sorted (fields : List (String × Value)) :
    sortedFields (sortedFields fields) = sortedFields fields := by
  cases fields with
  | nil => rfl
  | cons field fields =>
    obtain ⟨name, entry⟩ := field
    rw [sortedFields, sortedFields, sorted_sorted entry, sortedFields_sorted fields]
termination_by structural fields

theorem sortedEntries_sorted (entries : List (Value × Value)) :
    sortedEntries (sortedEntries entries) = sortedEntries entries := by
  cases entries with
  | nil => rfl
  | cons first entries =>
    obtain ⟨key, entry⟩ := first
    rw [sortedEntries, sortedEntries, sorted_sorted entry, sortedEntries_sorted entries]
termination_by structural entries

end

end Value

@[simp] theorem Dict.sorted_sorted (dict : Dict) : dict.sorted.sorted = dict.sorted := by
  have same := Value.sorted_sorted (.view dict)
  rw [Value.sorted_view, Value.sorted_view] at same
  exact Value.view.inj same

namespace Value

mutual

@[simp] theorem isKey_sorted (a : Value) : a.sorted.isKey = a.isKey := by
  cases a with
  | tuple items => rw [sorted, isKey, isKey, allKeys_sorted items]
  | _ => simp only [sorted, isKey]
termination_by structural a

theorem allKeys_sorted (items : List Value) : allKeys (sortedItems items) = allKeys items := by
  cases items with
  | nil => rfl
  | cons item items => rw [sortedItems, allKeys, allKeys, isKey_sorted item, allKeys_sorted items]
termination_by structural items

end

theorem keyBefore_of_same {a b key : Value} (first : same a key = true) (second : same b key = true) :
    keyBefore b a = false := by
  cases b with
  | text b =>
    obtain rfl := text_same_iff.mp second
    obtain rfl := same_text_iff.mp first
    exact Text.not_before_self b
  | _ => rfl

theorem isAmong_sorted (value : Value) (items : List Value) :
    value.sorted.isAmong (items.map sorted) = value.isAmong items := by
  simp [isAmong, Function.comp_def, same_sorted]

end Value

namespace Dict
variable (dict : Dict) (key : Value)

theorem get?_sorted : Assoc.get? dict.sorted key = (Assoc.get? dict key).map Value.sorted := by
  unfold Assoc.get? Dict.sorted
  rw [Value.find?_sorted _ (· == key) fun a b => Value.keyBefore_of_same, List.find?_map]
  simp [Function.comp_def]

theorem contains_sorted : Assoc.contains dict.sorted key = Assoc.contains dict key := by
  unfold Assoc.contains Dict.sorted
  rw [(List.mergeSort_perm _ _).any_eq, List.any_map]
  rfl

end Dict

theorem Table.get?_sorted (fields : Table Value) (name : String) :
    Assoc.get? ((Value.sortedFields fields).mergeSort fun a b => !Text.before b.1 a.1) name =
      (Assoc.get? fields name).map Value.sorted := by
  unfold Assoc.get?
  rw [Text.find?_sorted, Value.sortedFields_eq_map, List.find?_map]
  simp [Function.comp_def]

end Gamebook
