import Gamebook.Proofs.Text.Plain
import Gamebook.Proofs.Value.Sorting

/-!
Values as documents hold them. They are made of documents' lists and objects alone, the names in an
object are all different, and the only not-a-number is the one that documents have a word for.
-/
namespace Gamebook.Value

mutual

def isPlain : Value → Bool
  | .real (.nan mark) => mark == some 0
  | .text content => Text.isPlain content
  | .list items => allPlain items
  | .object fields => fieldsPlain fields && decide (fields.map (·.1)).Nodup
  | .tuple _ | .view _ => false
  | _ => true

def allPlain : List Value → Bool
  | [] => true
  | item :: items => item.isPlain && allPlain items

def fieldsPlain : List (String × Value) → Bool
  | [] => true
  | (name, entry) :: fields => Text.isPlain name && entry.isPlain && fieldsPlain fields

end

theorem allPlain_eq_all (items : List Value) : allPlain items = items.all isPlain := by
  induction items with
  | nil => rfl
  | cons item items ih => rw [allPlain, ih, List.all_cons]

theorem fieldsPlain_eq_all (fields : List (String × Value)) :
    fieldsPlain fields = fields.all fun field => Text.isPlain field.1 && field.2.isPlain := by
  induction fields with
  | nil => rfl
  | cons field fields ih => rw [fieldsPlain, ih, List.all_cons]

theorem fieldsWritable_eq_all (fields : List (String × Value)) :
    fieldsWritable fields = fields.all fun field => field.2.isWritable := by
  induction fields with
  | nil => rfl
  | cons field fields ih => rw [fieldsWritable, ih, List.all_cons]

theorem itemsDepth_le_iff {items : List Value} {bound : Nat} :
    itemsDepth items ≤ bound ↔ ∀ item ∈ items, item.depth ≤ bound := by
  induction items with
  | nil => simp [itemsDepth]
  | cons item items ih => rw [itemsDepth, Nat.max_le, ih, List.forall_mem_cons]

theorem fieldsDepth_le_iff {fields : List (String × Value)} {bound : Nat} :
    fieldsDepth fields ≤ bound ↔ ∀ field ∈ fields, field.2.depth ≤ bound := by
  induction fields with
  | nil => simp [fieldsDepth]
  | cons field fields ih =>
    obtain ⟨name, entry⟩ := field
    rw [fieldsDepth, Nat.max_le, ih, List.forall_mem_cons]

theorem entriesDepth_le_iff {entries : List (Value × Value)} {bound : Nat} :
    entriesDepth entries ≤ bound ↔ ∀ entry ∈ entries, entry.2.depth ≤ bound := by
  induction entries with
  | nil => simp [entriesDepth]
  | cons entry entries ih =>
    obtain ⟨key, entry⟩ := entry
    rw [entriesDepth, Nat.max_le, ih, List.forall_mem_cons]

theorem fieldsDepth_perm {fields others : List (String × Value)} (same : fields.Perm others) :
    fieldsDepth fields = fieldsDepth others := by
  refine Nat.le_antisymm (fieldsDepth_le_iff.mpr fun field member => ?_)
    (fieldsDepth_le_iff.mpr fun field member => ?_)
  · exact fieldsDepth_le_iff.mp (Nat.le_refl _) field (same.mem_iff.mp member)
  · exact fieldsDepth_le_iff.mp (Nat.le_refl _) field (same.mem_iff.mpr member)

mutual

theorem plain_sorted (a : Value) (plain : a.isPlain = true) : a.sorted.isPlain = true ∧
    a.sorted.isWritable = a.isWritable ∧ a.sorted.depth = a.depth := by
  cases a with
  | list items =>
    obtain ⟨each, writable, depth⟩ := plain_sortedItems items plain
    exact ⟨each, writable, congrArg (· + 1) depth⟩
  | object fields =>
    rw [isPlain, Bool.and_eq_true, decide_eq_true_eq] at plain
    obtain ⟨each, writable, depth⟩ := plain_sortedFields fields plain.1
    have perm := List.mergeSort_perm (sortedFields fields) fun a b => !Text.before b.1 a.1
    refine ⟨?_, ?_, ?_⟩
    · rw [sorted, isPlain, Bool.and_eq_true, decide_eq_true_eq, fieldsPlain_eq_all, perm.all_eq,
        ← fieldsPlain_eq_all, (perm.map _).nodup_iff]
      refine ⟨each, ?_⟩
      simpa [Function.comp_def] using plain.2
    · rw [sorted, isWritable, isWritable, fieldsWritable_eq_all, perm.all_eq,
        ← fieldsWritable_eq_all, writable]
    · rw [sorted, Value.depth, Value.depth, fieldsDepth_perm perm, depth]
  | tuple items => cases plain
  | view entries => cases plain
  | _ => exact ⟨plain, rfl, rfl⟩
termination_by structural a

theorem plain_sortedItems (items : List Value) (plain : allPlain items = true) :
    allPlain (sortedItems items) = true ∧ allWritable (sortedItems items) = allWritable items ∧
      itemsDepth (sortedItems items) = itemsDepth items := by
  cases items with
  | nil => exact ⟨rfl, rfl, rfl⟩
  | cons item items =>
    rw [allPlain, Bool.and_eq_true] at plain
    obtain ⟨first, firstWritable, firstDepth⟩ := plain_sorted item plain.1
    obtain ⟨others, writable, depth⟩ := plain_sortedItems items plain.2
    refine ⟨?_, ?_, ?_⟩
    · rw [sortedItems, allPlain, first, others]
      rfl
    · rw [sortedItems, allWritable, allWritable, firstWritable, writable]
    · rw [sortedItems, itemsDepth, itemsDepth, firstDepth, depth]
termination_by structural items

theorem plain_sortedFields (fields : List (String × Value)) (plain : fieldsPlain fields = true) :
    fieldsPlain (sortedFields fields) = true ∧
      fieldsWritable (sortedFields fields) = fieldsWritable fields ∧
      fieldsDepth (sortedFields fields) = fieldsDepth fields := by
  cases fields with
  | nil => exact ⟨rfl, rfl, rfl⟩
  | cons field fields =>
    obtain ⟨name, entry⟩ := field
    rw [fieldsPlain, Bool.and_eq_true, Bool.and_eq_true] at plain
    obtain ⟨first, firstWritable, firstDepth⟩ := plain_sorted entry plain.1.2
    obtain ⟨others, writable, depth⟩ := plain_sortedFields fields plain.2
    refine ⟨?_, ?_, ?_⟩
    · rw [sortedFields, fieldsPlain, plain.1.1, first, others]
      rfl
    · rw [sortedFields, fieldsWritable, fieldsWritable, firstWritable, writable]
    · rw [sortedFields, fieldsDepth, fieldsDepth, firstDepth, depth]
termination_by structural fields

end

theorem entryUnder?_text {fields : List (String × Value)} (distinct : (fields.map (·.1)).Nodup)
    {name : String} {entry : Value} (inside : (name, entry) ∈ fields) :
    entryUnder? (fields.map fun field => (.text field.1, field.2)) (.text name) = some entry := by
  induction fields with
  | nil => cases inside
  | cons field fields ih =>
    obtain ⟨new, distinct⟩ := List.nodup_cons.mp distinct
    unfold entryUnder? at ih ⊢
    rw [List.map_cons, List.find?_cons]
    rcases List.mem_cons.mp inside with rfl | behind
    · simp [sameScalar]
    · have differs : field.1 ≠ name := by
        rintro rfl
        exact new (List.mem_map_of_mem (f := (·.1)) behind)
      have skipped : sameScalar (.text field.1) (.text name) = false := by simpa [sameScalar] using differs
      simp only [skipped]
      exact ih distinct behind

mutual

theorem plain_same (a : Value) (plain : a.isPlain = true) : same a a = true := by
  cases a with
  | list items =>
    rw [same]
    exact plain_sameItems items plain
  | object fields =>
    rw [isPlain, Bool.and_eq_true, decide_eq_true_eq] at plain
    have entries := plain_sameFields fields plain.1 _ fun name entry => entryUnder?_text plain.2
    simp only [same, entries?, List.length_map, beq_self_eq_true, entries, Bool.and_self]
  | tuple items => cases plain
  | view entries => cases plain
  | real x =>
    cases x with
    | nan mark =>
      obtain rfl : mark = some 0 := by simpa [isPlain] using plain
      simp [same, sameScalar, countable?, number?, Number.isSameNaN, Double.isSameNaN]
    | _ => simp [same, sameScalar, countable?, number?, Number.eq, Number.compare?, Double.compare?]
  | _ => simp [same, sameScalar, countable?, number?, Number.eq, Number.compare?]
termination_by structural a

theorem plain_sameItems (items : List Value) (plain : allPlain items = true) :
    sameItems items items = true := by
  cases items with
  | nil => rw [sameItems]
  | cons item items =>
    rw [allPlain, Bool.and_eq_true] at plain
    rw [sameItems, plain_same item plain.1, plain_sameItems items plain.2]
    rfl
termination_by structural items

theorem plain_sameFields (fields : List (String × Value)) (plain : fieldsPlain fields = true)
    (others : List (Value × Value))
    (held : ∀ name entry, (name, entry) ∈ fields → entryUnder? others (.text name) = some entry) :
    sameFields fields others = true := by
  cases fields with
  | nil => rw [sameFields]
  | cons field fields =>
    obtain ⟨name, entry⟩ := field
    rw [fieldsPlain, Bool.and_eq_true, Bool.and_eq_true] at plain
    have behind := plain_sameFields fields plain.2 others fun other found inside =>
      held other found (.tail _ inside)
    simp only [sameFields, held name entry (.head _), plain_same entry plain.1.2, behind, Bool.and_self]
termination_by structural fields

end

theorem same_sorted_self {a : Value} (plain : a.isPlain = true) : same a.sorted a = true := by
  rw [← same_sorted, sorted_sorted]
  exact plain_same a.sorted (plain_sorted a plain).1

end Gamebook.Value
