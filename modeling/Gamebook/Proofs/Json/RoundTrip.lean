import Gamebook.Json.Writer
import Gamebook.Proofs.Json.Scalars
import Gamebook.Proofs.Json.Strings
import Gamebook.Proofs.Table

/-!
What is written as JSON is read as the value that it was made of, with objects in the order in which
they were written.
-/
namespace Gamebook.Json

/-- How objects stay in the order of the value. -/
def Layout.unsorted (layout : Layout) : Layout := { layout with sorted := false }

section
variable (layout : Layout) (level : Nat)

theorem writeItems_eq_map (items : List Value) :
    writeItems layout level items = items.map (writeValue layout level) := by
  induction items with
  | nil => rfl
  | cons item items ih => rw [writeItems, ih, List.map_cons]

theorem writeFields_eq_map (fields : List (String × Value)) :
    writeFields layout level fields =
      fields.map fun field => (field.1, writeValue layout level field.2) := by
  induction fields with
  | nil => rfl
  | cons field fields ih => rw [writeFields, ih, List.map_cons]

end

mutual

theorem writeValue_sorted (level : Nat) (a : Value) (plain : a.isPlain = true) :
    writeValue .file level a = writeValue Layout.file.unsorted level a.sorted := by
  cases a with
  | list items =>
    rw [Value.isPlain] at plain
    rw [Value.sorted, writeValue, writeValue, writeItems_sorted (level + 1) items plain]
    rfl
  | object fields =>
    rw [Value.isPlain, Bool.and_eq_true] at plain
    have arranged : arrange .file (writeFields .file (level + 1) fields) =
        arrange Layout.file.unsorted (writeFields Layout.file.unsorted (level + 1)
          ((Value.sortedFields fields).mergeSort fun a b => !Text.before b.1 a.1)) := by
      rw [writeFields_sorted (level + 1) fields plain.1, writeFields_eq_map, writeFields_eq_map]
      exact (Text.map_mergeSort (Value.sortedFields fields) _).symm
    rw [Value.sorted, writeValue, writeValue, arranged]
    rfl
  | tuple items => cases plain
  | view entries => cases plain
  | _ => rfl
termination_by structural a

theorem writeItems_sorted (level : Nat) (items : List Value) (plain : Value.allPlain items = true) :
    writeItems .file level items =
      writeItems Layout.file.unsorted level (Value.sortedItems items) := by
  cases items with
  | nil => rfl
  | cons item items =>
    rw [Value.allPlain, Bool.and_eq_true] at plain
    rw [Value.sortedItems, writeItems, writeItems, writeValue_sorted level item plain.1,
      writeItems_sorted level items plain.2]
termination_by structural items

theorem writeFields_sorted (level : Nat) (fields : List (String × Value))
    (plain : Value.fieldsPlain fields = true) :
    writeFields .file level fields =
      writeFields Layout.file.unsorted level (Value.sortedFields fields) := by
  cases fields with
  | nil => rfl
  | cons field fields =>
    obtain ⟨name, entry⟩ := field
    rw [Value.fieldsPlain, Bool.and_eq_true, Bool.and_eq_true] at plain
    rw [Value.sortedFields, writeFields, writeFields, writeValue_sorted level entry plain.1.2,
      writeFields_sorted level fields plain.2]
termination_by structural fields

end

/-- Blanks, as they stand between the parts of a text. -/
def IsBlank (text : List Char) : Prop := ∀ c ∈ text, isSpace c = true

theorem skipSpace_append {blanks rest : List Char} (blank : IsBlank blanks)
    (starts : rest.head?.any isSpace = false) : skipSpace (blanks ++ rest) = rest := by
  rw [skipSpace, List.dropWhile_append_of_pos blank]
  cases rest with
  | nil => rfl
  | cons c rest =>
    have other : isSpace c = false := by simpa using starts
    simp [other]

theorem endsNumeral_append {blanks rest : List Char} (blank : IsBlank blanks)
    (ends : endsNumeral rest = true) : endsNumeral (blanks ++ rest) = true := by
  cases blanks with
  | nil => exact ends
  | cons c blanks =>
    have space := blank c (.head _)
    simp only [isSpace, Bool.or_eq_true, decide_eq_true_eq] at space
    rcases space with ((rfl | rfl) | rfl) | rfl <;> rfl

theorem isBlank_lineBreak (layout : Layout) (level : Nat) : IsBlank (lineBreak layout level) := by
  unfold lineBreak
  split
  · intro c member
    rcases List.mem_cons.mp member with rfl | inside
    · rfl
    · rw [List.eq_of_mem_replicate inside]
      rfl
  · nofun

/-- Entries with a comma and blanks between them. -/
def joined (between : List Char) (entries : List (List Char)) : List Char :=
  (entries.intersperse (',' :: between)).flatten

theorem enclose_eq (layout : Layout) (level : Nat) (opening closing : Char)
    {entries : List (List Char)} (some : entries ≠ []) :
    ∃ before between after, IsBlank before ∧ IsBlank between ∧ IsBlank after ∧
      enclose layout level opening closing entries =
        opening :: (before ++ (joined between entries ++ (after ++ [closing]))) := by
  refine ⟨_, if layout.onLines then lineBreak layout (level + 1) else [' '], _,
    isBlank_lineBreak layout (level + 1), ?_, isBlank_lineBreak layout level, ?_⟩
  · split
    · exact isBlank_lineBreak layout (level + 1)
    · intro c member
      rw [List.mem_singleton.mp member]
      rfl
  · simp [enclose, joined, some]

/-- Whether a text begins as a value does, so that it is neither skipped nor taken for the end of a
list. -/
def startsValue (text : List Char) : Bool := text.head?.any fun c => !isSpace c && c != ']'

/-- Whether a text begins as a word or a numeral does. -/
def startsScalar (text : List Char) : Bool :=
  text.head?.any fun c => c != '"' && c != '[' && c != '\x7b'

theorem starts_signed {digits : List Char} (starts : digits.head?.any Char.isDigit = true)
    (negative : Bool) : startsValue ((if negative then ['-'] else []) ++ digits) = true ∧
      startsScalar ((if negative then ['-'] else []) ++ digits) = true := by
  cases negative with
  | true => exact ⟨rfl, rfl⟩
  | false =>
    cases digits with
    | nil => cases starts
    | cons c digits =>
      have digit : c.isDigit = true := by simpa using starts
      have other (d : Char) (letter : d.isDigit = false) : c ≠ d := by
        rintro rfl
        rw [letter] at digit
        cases digit
      simp [startsValue, startsScalar, isSpace, other]

theorem writeValue_starts (layout : Layout) (level : Nat) (value : Value) :
    startsValue (writeValue layout level value) = true := by
  have enclosed (opening closing : Char) (good : startsValue [opening] = true)
      (entries : List (List Char)) : startsValue (enclose layout level opening closing entries) = true := by
    unfold enclose
    split <;> exact good
  cases value with
  | null => rfl
  | bool value => cases value <;> rfl
  | int value =>
    rw [writeValue, toList_int]
    exact (starts_signed (toDigits_starts _) _).1
  | real value =>
    rw [writeValue]
    cases value with
    | nan =>
      rw [Double.textWith]
      rfl
    | infinite negative => cases negative <;> rfl
    | finite negative units fits =>
      rw [Double.textWith, String.toList_ofList]
      exact (starts_signed (magnitude_starts units) negative).1
  | text value => rfl
  | list items => exact enclosed '[' ']' rfl _
  | tuple items => exact enclosed '[' ']' rfl _
  | object fields => exact enclosed _ _ rfl _
  | view entries => exact enclosed _ _ rfl _

theorem readValue_scalar {text : List Char} (scalar : startsScalar text = true) (depth fuel : Nat) :
    readValue depth (fuel + 1) text = readScalar text := by
  unfold readValue
  split
  · rename_i none
    cases none
  · cases scalar
  · cases scalar
  · cases scalar
  · rfl

/-- Whether a text is read as a value by any fuel that covers it, where a numeral may end. -/
def IsReadAs (depth : Nat) (text : List Char) (value : Value) : Prop :=
  ∀ fuel rest, text.length ≤ fuel → endsNumeral rest = true →
    readValue depth fuel (text ++ rest) = .ok (value, rest)

theorem isReadAs_scalar {text : List Char} {value : Value} (scalar : startsScalar text = true)
    (reads : ∀ rest, endsNumeral rest = true → readScalar (text ++ rest) = .ok (value, rest))
    (depth : Nat) : IsReadAs depth text value := by
  intro fuel rest enough ends
  cases text with
  | nil => cases scalar
  | cons c text =>
    obtain ⟨fuel, rfl⟩ : ∃ less, fuel = less + 1 := ⟨fuel - 1, by simp at enough; omega⟩
    have more : startsScalar (c :: text ++ rest) = true := scalar
    rw [readValue_scalar more, reads rest ends]

theorem writeSign_nonempty {sign : List Char} (good : Text.isSign sign = true) :
    0 < (writeSign sign).length := by
  have reads : readChar (writeSign sign ++ []) = .ok (some sign, []) :=
    readChar_writeSign good fun _ => rfl
  rw [List.append_nil] at reads
  refine List.length_pos_of_ne_nil fun empty => ?_
  rw [empty] at reads
  cases reads

theorem length_le_written {signs : List (List Char)} (spelled : Text.isSpelled signs = true) :
    signs.length ≤ (signs.flatMap writeSign).length := by
  induction signs with
  | nil => exact Nat.le_refl _
  | cons sign signs ih =>
    simp only [Text.isSpelled, Bool.and_eq_true] at spelled
    have first := writeSign_nonempty spelled.1.1
    have others := ih spelled.2
    rw [List.flatMap_cons, List.length_append, List.length_cons]
    omega

/-- The characters of a written string after its opening quote. -/
theorem readString_name {text : String} (plain : Text.isPlain text = true) (fuel : Nat)
    (enough : (writeString text).length ≤ fuel + 1) (rest : List Char) :
    ∃ after, writeString text ++ rest = '"' :: after ∧
      readString fuel after = .ok (text.toList, rest) := by
  have short := length_le_written plain
  refine ⟨(Text.signs text.toList).flatMap writeSign ++ '"' :: rest, by simp [writeString], ?_⟩
  rw [readString_signs plain rest, Text.flatten_signs]
  simp only [writeString, List.length_cons, List.length_append, List.length_nil] at enough
  omega

theorem isReadAs_string {text : String} (plain : Text.isPlain text = true) (depth : Nat) :
    IsReadAs depth (writeString text) (.text text) := by
  intro fuel rest enough _
  obtain ⟨fuel, rfl⟩ : ∃ less, fuel = less + 1 := ⟨fuel - 1, by simp [writeString] at enough; omega⟩
  obtain ⟨after, quoted, reads⟩ := readString_name plain fuel enough rest
  rw [quoted, readValue]
  refine bind_eq_ok.mpr ⟨_, reads, ?_⟩
  dsimp only
  rw [String.ofList_toList]
  rfl

theorem joined_cons (between entry next : List Char) (entries : List (List Char)) :
    joined between (entry :: next :: entries) =
      entry ++ (',' :: (between ++ joined between (next :: entries))) := by
  simp [joined]

theorem joined_singleton (between entry : List Char) : joined between [entry] = entry := by
  simp [joined]

theorem head?_append {text : List Char} (starts : startsValue text = true) (rest : List Char) :
    startsValue (text ++ rest) = true ∧ (text ++ rest).head?.any isSpace = false ∧
      (text ++ rest).head? ≠ some ']' := by
  cases text with
  | nil => cases starts
  | cons c text => exact ⟨starts, by simpa [startsValue] using starts⟩

theorem joined_starts {entry : List Char} (starts : startsValue entry = true) (between : List Char)
    (entries : List (List Char)) : startsValue (joined between (entry :: entries)) = true := by
  cases entries with
  | nil => rwa [joined_singleton]
  | cons next entries =>
    rw [joined_cons]
    exact (head?_append starts _).1

/-- How a value is written is how it is read, one level in. -/
def Legible (write : Value → List Char) (depth : Nat) (value : Value) : Prop :=
  startsValue (write value) = true ∧ IsReadAs depth (write value) value

/-- A field as it is written when its entry is. -/
def fieldText (write : Value → List Char) (field : String × Value) : List Char :=
  writeField (field.1, write field.2)

section
variable {write : Value → List Char} {depth : Nat} {between tail rest : List Char}

theorem readItems_joined {items : List Value} (each : ∀ item ∈ items, Legible write depth item)
    (nonempty : items ≠ []) (blank : IsBlank between) (closes : skipSpace tail = ']' :: rest)
    (ends : endsNumeral tail = true) (fuel : Nat)
    (enough : (joined between (items.map write)).length < fuel) :
    readItems depth fuel (joined between (items.map write) ++ tail) = .ok (items, rest) := by
  induction items generalizing fuel with
  | nil => exact absurd rfl nonempty
  | cons item items ih =>
    obtain ⟨⟨starts, reads⟩, others⟩ := List.forall_mem_cons.mp each
    obtain ⟨fuel, rfl⟩ : ∃ less, fuel = less + 1 := ⟨fuel - 1, by omega⟩
    cases items with
    | nil =>
      rw [List.map_singleton, joined_singleton] at enough ⊢
      rw [readItems]
      refine bind_eq_ok.mpr ⟨_, reads fuel tail (by omega) ends, ?_⟩
      dsimp only
      rw [closes]
      rfl
    | cons next items =>
      rw [List.map_cons, List.map_cons, joined_cons, ← List.map_cons] at enough ⊢
      simp only [List.length_append, List.length_cons] at enough
      have unblank := (head?_append (joined_starts (others next (.head _)).1 between
        (items.map write)) tail).2.1
      have skipped : skipSpace (between ++ (joined between ((next :: items).map write) ++ tail)) =
          joined between ((next :: items).map write) ++ tail := skipSpace_append blank unblank
      have later := ih others (List.cons_ne_nil _ _) fuel (by omega)
      rw [readItems, List.append_assoc]
      refine bind_eq_ok.mpr ⟨_, reads fuel _ (by omega) rfl, ?_⟩
      rw [List.cons_append, List.append_assoc]
      show (readItems depth fuel (skipSpace _) >>= _) = _
      rw [skipped]
      exact bind_eq_ok.mpr ⟨_, later, rfl⟩

theorem readFields_field {name : String} (plain : Text.isPlain name = true) {entry : Value}
    (legible : Legible write depth entry) {more : List Char} (ends : endsNumeral more = true)
    {fuel : Nat} (enough : (fieldText write (name, entry)).length ≤ fuel) :
    readFields depth (fuel + 1) (fieldText write (name, entry) ++ more) =
      match skipSpace more with
      | '\x7d' :: rest => .ok ([(name, entry)], rest)
      | ',' :: rest => do
        let (fields, rest) ← readFields depth fuel (skipSpace rest)
        return ((name, entry) :: fields, rest)
      | _ => .error .malformed := by
  simp only [fieldText, writeField, List.length_append, List.length_cons] at enough
  obtain ⟨after, quoted, named⟩ := readString_name plain fuel (by omega)
    (':' :: ' ' :: (write entry ++ more))
  have same : fieldText write (name, entry) ++ more = '"' :: after := by
    simpa [fieldText, writeField] using quoted
  have blank : IsBlank [' '] := fun c member => by rw [List.mem_singleton.mp member]; rfl
  have skipped : skipSpace (' ' :: (write entry ++ more)) = write entry ++ more :=
    skipSpace_append blank (head?_append legible.1 more).2.1
  have colon : skipSpace (':' :: ' ' :: (write entry ++ more)) = ':' :: ' ' :: (write entry ++ more) := rfl
  rw [same, readFields, named]
  dsimp only [bind, Except.bind]
  simp only [colon, skipped, legible.2 fuel more (by omega) ends, String.ofList_toList]
  rfl

/-- Entries that begin with a quote do so when they are joined. -/
theorem joined_quoted {α : Type} (write : α → List Char) (entry : α)
    (quoted : (write entry).head? = some '"') (between : List Char) (entries : List α) :
    ∃ more, joined between ((entry :: entries).map write) = '"' :: more := by
  obtain ⟨first, same⟩ := List.head?_eq_some_iff.mp quoted
  cases entries with
  | nil => exact ⟨first, (joined_singleton between _).trans same⟩
  | cons next entries =>
    rw [List.map_cons, List.map_cons, joined_cons, same]
    exact ⟨_, rfl⟩

theorem readFields_joined {fields : List (String × Value)}
    (each : ∀ field ∈ fields, Text.isPlain field.1 = true ∧ Legible write depth field.2)
    (nonempty : fields ≠ []) (blank : IsBlank between) (closes : skipSpace tail = '\x7d' :: rest)
    (ends : endsNumeral tail = true) (fuel : Nat)
    (enough : (joined between (fields.map (fieldText write))).length < fuel) :
    readFields depth fuel (joined between (fields.map (fieldText write)) ++ tail) =
      .ok (fields, rest) := by
  induction fields generalizing fuel with
  | nil => exact absurd rfl nonempty
  | cons field fields ih =>
    obtain ⟨name, entry⟩ := field
    obtain ⟨first, others⟩ := List.forall_mem_cons.mp each
    obtain ⟨plain, legible⟩ : Text.isPlain name = true ∧ Legible write depth entry := first
    obtain ⟨fuel, rfl⟩ : ∃ less, fuel = less + 1 := ⟨fuel - 1, by omega⟩
    cases fields with
    | nil =>
      rw [List.map_singleton, joined_singleton] at enough ⊢
      rw [readFields_field plain legible ends (by omega), closes]
      rfl
    | cons next fields =>
      rw [List.map_cons, List.map_cons, joined_cons, ← List.map_cons] at enough ⊢
      simp only [List.length_append, List.length_cons] at enough
      obtain ⟨_, quoted⟩ := joined_quoted (fieldText write) next rfl between fields
      have skipped : skipSpace (between ++
          (joined between ((next :: fields).map (fieldText write)) ++ tail)) =
            joined between ((next :: fields).map (fieldText write)) ++ tail := by
        rw [quoted]
        exact skipSpace_append blank rfl
      have later := ih others (List.cons_ne_nil _ _) fuel (by omega)
      rw [List.append_assoc, readFields_field plain legible rfl (by omega), List.cons_append,
        List.append_assoc]
      show (readFields depth fuel (skipSpace _) >>= _) = _
      rw [skipped]
      exact bind_eq_ok.mpr ⟨_, later, rfl⟩

end

section
variable (layout : Layout)

theorem isReadAs_list {level depth : Nat} {items : List Value}
    (each : ∀ item ∈ items, Legible (writeValue layout (level + 1)) depth item) :
    IsReadAs (depth + 1) (writeValue layout level (.list items)) (.list items) := by
  intro fuel rest enough ends
  rw [writeValue, writeItems_eq_map] at enough ⊢
  cases items with
  | nil =>
    obtain ⟨fuel, rfl⟩ := Nat.exists_eq_add_of_lt (Nat.lt_of_lt_of_le Nat.zero_lt_two enough)
    rfl
  | cons item items =>
    obtain ⟨before, between, after, blankBefore, blank, blankAfter, same⟩ :=
      enclose_eq layout level '[' ']' (List.cons_ne_nil (writeValue layout (level + 1) item)
        (items.map (writeValue layout (level + 1))))
    rw [← List.map_cons] at same
    rw [same] at enough ⊢
    simp only [List.length_append, List.length_cons] at enough
    obtain ⟨fuel, rfl⟩ : ∃ less, fuel = less + 1 := ⟨fuel - 1, by omega⟩
    have starts := head?_append (joined_starts (each item (.head _)).1 between
      (items.map (writeValue layout (level + 1)))) (after ++ ']' :: rest)
    rw [← List.map_cons] at starts
    have closes : skipSpace (after ++ ']' :: rest) = ']' :: rest := skipSpace_append blankAfter rfl
    have reads := readItems_joined each (List.cons_ne_nil _ _) blank closes
      (endsNumeral_append blankAfter rfl) fuel (by omega)
    simp only [List.cons_append, List.append_assoc, List.nil_append]
    rw [readValue]
    dsimp only
    rw [skipSpace_append blankBefore starts.2.1]
    split
    · rename_i closed
      rw [closed] at starts
      exact absurd rfl starts.2.2
    · rw [reads]
      rfl

theorem isReadAs_object {level depth : Nat} {fields : List (String × Value)}
    (distinct : (fields.map (·.1)).Nodup) (each : ∀ field ∈ fields, Text.isPlain field.1 = true ∧
      Legible (writeValue layout.unsorted (level + 1)) depth field.2) :
    IsReadAs (depth + 1) (writeValue layout.unsorted level (.object fields)) (.object fields) := by
  intro fuel rest enough ends
  have written : (arrange layout.unsorted (writeFields layout.unsorted (level + 1) fields)).map writeField =
      fields.map (fieldText (writeValue layout.unsorted (level + 1))) := by
    rw [writeFields_eq_map]
    exact List.map_map
  rw [writeValue, written] at enough ⊢
  cases fields with
  | nil =>
    obtain ⟨fuel, rfl⟩ := Nat.exists_eq_add_of_lt (Nat.lt_of_lt_of_le Nat.zero_lt_two enough)
    rfl
  | cons field fields =>
    obtain ⟨before, between, after, blankBefore, blank, blankAfter, same⟩ :=
      enclose_eq layout.unsorted level '\x7b' '\x7d' (List.cons_ne_nil
        (fieldText (writeValue layout.unsorted (level + 1)) field)
          (fields.map (fieldText (writeValue layout.unsorted (level + 1)))))
    rw [← List.map_cons] at same
    rw [same] at enough ⊢
    simp only [List.length_append, List.length_cons] at enough
    obtain ⟨fuel, rfl⟩ : ∃ less, fuel = less + 1 := ⟨fuel - 1, by omega⟩
    have closes : skipSpace (after ++ '\x7d' :: rest) = '\x7d' :: rest :=
      skipSpace_append blankAfter rfl
    have reads := readFields_joined each (List.cons_ne_nil _ _) blank closes
      (endsNumeral_append blankAfter rfl) fuel (by omega)
    obtain ⟨more, quoted⟩ := joined_quoted (fieldText (writeValue layout.unsorted (level + 1))) field rfl
      between fields
    rw [quoted] at reads ⊢
    simp only [List.cons_append, List.append_assoc, List.nil_append] at reads ⊢
    rw [readValue]
    dsimp only
    rw [skipSpace_append blankBefore rfl]
    show (readFields depth fuel ('"' :: (more ++ (after ++ '\x7d' :: rest))) >>= _) = _
    rw [reads]
    show Except.ok (Value.object (Assoc.ofPairs _), rest) = _
    rw [Assoc.ofPairs_eq distinct]

end

mutual

theorem isReadAs_write (layout : Layout) (level depth : Nat) (a : Value) (plain : a.isPlain = true)
    (writable : a.isWritable = true) (deep : a.depth ≤ depth) :
    IsReadAs depth (writeValue layout.unsorted level a) a := by
  cases a with
  | null => exact isReadAs_scalar rfl (fun rest _ => rfl) depth
  | bool value => cases value <;> exact isReadAs_scalar rfl (fun rest _ => rfl) depth
  | int value =>
    have starts := (starts_signed (toDigits_starts value.natAbs) (decide (value < 0))).2
    rw [← toList_int] at starts
    rw [Value.isWritable] at writable
    exact isReadAs_scalar starts (fun rest ends => readScalar_int writable ends) depth
  | real value =>
    rw [writeValue]
    have starts : startsScalar (value.textWith .json).toList = true := by
      cases value with
      | nan =>
        rw [Double.textWith]
        rfl
      | infinite negative => cases negative <;> rfl
      | finite negative units fits =>
        rw [Double.textWith, String.toList_ofList]
        exact (starts_signed (magnitude_starts units) negative).2
    exact isReadAs_scalar starts (fun rest ends => readScalar_real plain ends) depth
  | text content => exact isReadAs_string plain depth
  | list items =>
    obtain ⟨depth, rfl⟩ := Nat.exists_eq_add_of_le' (Nat.le_trans (Nat.le_add_left 1 _) deep)
    exact isReadAs_list layout.unsorted
      (legible_items layout (level + 1) depth items plain writable (Nat.le_of_succ_le_succ deep))
  | object fields =>
    obtain ⟨depth, rfl⟩ := Nat.exists_eq_add_of_le' (Nat.le_trans (Nat.le_add_left 1 _) deep)
    rw [Value.isPlain, Bool.and_eq_true, decide_eq_true_eq] at plain
    exact isReadAs_object layout plain.2
      (legible_fields layout (level + 1) depth fields plain.1 writable (Nat.le_of_succ_le_succ deep))
  | tuple items => cases plain
  | view entries => cases plain
termination_by structural a

theorem legible_items (layout : Layout) (level depth : Nat) (items : List Value)
    (plain : Value.allPlain items = true) (writable : Value.allWritable items = true)
    (deep : Value.itemsDepth items ≤ depth) :
    ∀ item ∈ items, Legible (writeValue layout.unsorted level) depth item := by
  cases items with
  | nil => nofun
  | cons item items =>
    rw [Value.allPlain, Bool.and_eq_true] at plain
    rw [Value.allWritable, Bool.and_eq_true] at writable
    rw [Value.itemsDepth, Nat.max_le] at deep
    have first := isReadAs_write layout level depth item plain.1 writable.1 deep.1
    have others := legible_items layout level depth items plain.2 writable.2 deep.2
    exact List.forall_mem_cons.mpr ⟨⟨writeValue_starts _ level item, first⟩, others⟩
termination_by structural items

theorem legible_fields (layout : Layout) (level depth : Nat) (fields : List (String × Value))
    (plain : Value.fieldsPlain fields = true) (writable : Value.fieldsWritable fields = true)
    (deep : Value.fieldsDepth fields ≤ depth) : ∀ field ∈ fields, Text.isPlain field.1 = true ∧
      Legible (writeValue layout.unsorted level) depth field.2 := by
  cases fields with
  | nil => nofun
  | cons field fields =>
    obtain ⟨name, entry⟩ := field
    rw [Value.fieldsPlain, Bool.and_eq_true, Bool.and_eq_true] at plain
    rw [Value.fieldsWritable, Bool.and_eq_true] at writable
    rw [Value.fieldsDepth, Nat.max_le] at deep
    have first := isReadAs_write layout level depth entry plain.1.2 writable.1 deep.1
    have others := legible_fields layout level depth fields plain.2 writable.2 deep.2
    exact List.forall_mem_cons.mpr ⟨⟨plain.1.1, writeValue_starts _ level entry, first⟩, others⟩
termination_by structural fields

end

/-- A document in a file is read as it was, with its objects sorted. -/
theorem read_write [Host] {value : Value} (plain : value.isPlain = true)
    (writable : value.isWritable = true)
    (deep : value.depth ≤ Host.reading) : read (write .file value) = .ok value.sorted := by
  obtain ⟨plainSorted, writableSorted, depthSorted⟩ := Value.plain_sorted value plain
  have reads := isReadAs_write .file 0 Host.reading value.sorted plainSorted
    (writableSorted.trans writable) (depthSorted ▸ deep)
  have starts := head?_append (writeValue_starts Layout.file.unsorted 0 value.sorted) []
  have skipped : skipSpace ([] ++ (writeValue Layout.file.unsorted 0 value.sorted ++ [])) = _ :=
    skipSpace_append nofun starts.2.1
  rw [List.nil_append, List.append_nil] at skipped
  have whole := reads ((writeValue Layout.file.unsorted 0 value.sorted).length + 1) [] (Nat.le_succ _) rfl
  rw [List.append_nil] at whole
  rw [write, writeValue_sorted 0 value plain, read, String.toList_ofList]
  dsimp only
  rw [skipped, whole]
  rfl

end Gamebook.Json
