import Gamebook.Proofs.Json.RoundTrip

/-!
Where reading stops. Whatever a value is, once what was written for it can be read at all, the reader
comes to an end where the writer did. So the fields of an object are told apart even if what they
hold is not read as it was written.
-/
namespace Gamebook.Json

/-- What is left of a string within it, with the text that follows its closing quote. -/
inductive Inside (rest : List Char) : List Char → Prop
  | closed : Inside rest ('"' :: rest)
  | plain {c : Char} {text : List Char} (unquoted : c ≠ '"') (unescaped : c ≠ '\\')
      (shown : 32 ≤ c.toNat) (later : Inside rest text) : Inside rest (c :: text)
  | escaped {c escape : Char} {text : List Char} (known : simpleEscape? escape = some c)
      (other : escape ≠ 'u') (later : Inside rest text) : Inside rest ('\\' :: escape :: text)
  | coded {code : Nat} {text : List Char} (bound : code < 65536) (later : Inside rest text) :
      Inside rest (unicodeEscape code ++ text)

section
variable {rest text after : List Char}

theorem Inside.escapeUnits {code : Nat} (bound : code < 0x110000) (later : Inside rest text) :
    Inside rest (escapeUnits code ++ text) := by
  unfold Json.escapeUnits
  split
  · rename_i small
    exact .coded small later
  · rw [List.append_assoc]
    exact .coded (by omega) (.coded (by omega) later)

theorem toNat_lt (c : Char) : c.toNat < 0x110000 := by
  have valid : c.toNat.isValidChar := c.valid
  rcases valid with below | above <;> omega

theorem codeOf_lt (sign : List Char) : Text.codeOf sign < 0x110000 := by
  have first := toNat_lt (Text.charOf sign)
  unfold Text.codeOf Text.half?
  split
  · rename_i c
    have second := toNat_lt c
    split
    · exact first
    · rw [Option.getD_some]
      omega
  · exact first

theorem Inside.writeSign (sign : List Char) (later : Inside rest text) :
    Inside rest (writeSign sign ++ text) := by
  unfold Json.writeSign
  split
  · rename_i c
    rcases writeChar_cases c with ⟨escape, written, known, other⟩ | ⟨written, unquoted, unescaped, shown⟩ |
      written
    · exact written ▸ .escaped known other later
    · exact written ▸ .plain unquoted unescaped shown later
    · exact written ▸ later.escapeUnits (toNat_lt c)
  · exact later.escapeUnits (codeOf_lt sign)

/-- After its opening quote, what is written for a text is a string. -/
theorem inside_writeString (content : String) (rest : List Char) :
    ∃ inside, writeString content ++ rest = '"' :: inside ∧ Inside rest inside := by
  refine ⟨(Text.signs content.toList).flatMap writeSign ++ '"' :: rest, by simp [writeString], ?_⟩
  induction Text.signs content.toList with
  | nil => exact .closed
  | cons sign signs ih =>
    rw [List.flatMap_cons, List.append_assoc]
    exact ih.writeSign sign

theorem Inside.readLowHalf? {low : Nat} (inside : Inside rest text)
    (found : readLowHalf? text = some (low, after)) : Inside rest after := by
  cases inside with
  | closed => cases found
  | plain unquoted unescaped shown later =>
    unfold Json.readLowHalf? at found
    split at found
    · rename_i same
      exact absurd (List.cons.inj same).1 unescaped
    · cases found
  | escaped known other later =>
    unfold Json.readLowHalf? at found
    split at found
    · rename_i same
      exact absurd (List.cons.inj (List.cons.inj same).2).1 other
    · cases found
  | coded bound later =>
    simp only [unicodeEscape, List.cons_append, Json.readLowHalf?, readHex?_hexDigits bound,
      Option.bind_eq_bind, Option.bind_some, Option.ite_none_right_eq_some] at found
    obtain rfl := (Prod.mk.inj (Option.some.inj found.2)).2
    exact later

theorem Inside.readUnicode? {code : Nat} (bound : code < 65536) {sign : List Char}
    (inside : Inside rest text)
    (found : readUnicode? (Text.hexDigits 4 code ++ text) = some (sign, after)) :
    Inside rest after := by
  simp only [Json.readUnicode?, readHex?_hexDigits bound, Option.bind_eq_bind, Option.bind_some] at found
  -- Halves that were written for two signs may be read as one, which ends where the second does.
  split at found
  · split at found
    · rename_i paired
      cases found
      exact inside.readLowHalf? paired
    · cases found
      exact inside
  · split at found <;> cases found <;> exact inside

theorem Inside.readChar {sign? : Option (List Char)} (inside : Inside rest text)
    (ok : readChar text = .ok (sign?, after)) :
    (sign? = none ∧ after = rest) ∨ ∃ sign, sign? = some sign ∧ Inside rest after := by
  cases inside with
  | closed =>
    cases ok
    exact .inl ⟨rfl, rfl⟩
  | plain unquoted unescaped shown later =>
    rw [readChar_plain unquoted unescaped shown] at ok
    cases ok
    exact .inr ⟨_, rfl, later⟩
  | escaped known other later =>
    rw [readChar_simple known other] at ok
    cases ok
    exact .inr ⟨_, rfl, later⟩
  | coded bound later =>
    simp only [unicodeEscape, List.cons_append, Json.readChar] at ok
    split at ok
    · rename_i found
      cases ok
      exact .inr ⟨_, rfl, later.readUnicode? bound found⟩
    · cases ok

theorem Inside.readString {fuel : Nat} {chars : List Char} (inside : Inside rest text)
    (ok : readString fuel text = .ok (chars, after)) : after = rest := by
  -- Each sign takes one of the fuel, and what follows it is still within the string.
  induction fuel generalizing text chars after with
  | zero => cases ok
  | succ fuel ih =>
    obtain ⟨⟨sign?, between⟩, first, others⟩ := bind_eq_ok.mp ok
    rcases inside.readChar first with ⟨rfl, rfl⟩ | ⟨sign, rfl, left⟩
    · cases others
      rfl
    · obtain ⟨⟨signs, last⟩, later, same⟩ := bind_eq_ok.mp others
      cases same
      exact ih left later

theorem readString_mono {fuel more : Nat} (least : fuel ≤ more) {chars : List Char}
    (ok : readString fuel text = .ok (chars, after)) : readString more text = .ok (chars, after) := by
  induction fuel generalizing text chars after more with
  | zero => cases ok
  | succ fuel ih =>
    obtain ⟨more, rfl⟩ : ∃ less, more = less + 1 := ⟨more - 1, by omega⟩
    obtain ⟨⟨sign?, between⟩, first, others⟩ := bind_eq_ok.mp ok
    refine bind_eq_ok.mpr ⟨_, first, ?_⟩
    cases sign? with
    | none => exact others
    | some sign =>
      obtain ⟨⟨signs, last⟩, later, same⟩ := bind_eq_ok.mp others
      exact bind_eq_ok.mpr ⟨_, ih (Nat.le_of_succ_le_succ least) later, same⟩

/-- What is read of a name, with any fuel that allows it to be read, is the name if it is plain. -/
theorem readString_plain {content : String} (plain : Text.isPlain content = true) {fuel : Nat}
    {chars : List Char} (quoted : writeString content ++ rest = '"' :: text)
    (ok : readString fuel text = .ok (chars, after)) : String.ofList chars = content := by
  obtain ⟨inside, same, reads⟩ :=
    readString_name plain (fuel + (writeString content).length) (by omega) rest
  obtain rfl := (List.cons.inj (same.symm.trans quoted)).2
  have both := (readString_mono (Nat.le_add_right fuel _) ok).symm.trans reads
  rw [(Prod.mk.inj (Except.ok.inj both)).1, String.ofList_toList]

end

/-- Whether reading a value from a text, where it can be done at all, goes through the text. -/
def Stops (text : List Char) : Prop := ∀ depth fuel rest found after, endsNumeral rest = true →
  readValue depth fuel (text ++ rest) = .ok (found, after) → after = rest

theorem stops_scalar {text : List Char} (scalar : startsScalar text = true)
    (reads : ∀ rest, endsNumeral rest = true → ∃ value, readScalar (text ++ rest) = .ok (value, rest)) :
    Stops text := by
  intro depth fuel rest found after ends ok
  obtain ⟨value, read⟩ := reads rest ends
  cases text with
  | nil => cases scalar
  | cons c text =>
    cases fuel with
    | zero => cases ok
    | succ fuel =>
      have more : startsScalar (c :: text ++ rest) = true := scalar
      rw [readValue_scalar more, read] at ok
      cases ok
      rfl

theorem stops_string (content : String) : Stops (writeString content) := by
  intro depth fuel rest found after _ ok
  obtain ⟨text, quoted, inside⟩ := inside_writeString content rest
  rw [quoted] at ok
  cases fuel with
  | zero => cases ok
  | succ fuel =>
    rw [readValue] at ok
    obtain ⟨⟨chars, last⟩, read, same⟩ := bind_eq_ok.mp ok
    cases same
    exact inside.readString read

theorem text_of_read {content : String} (plain : Text.isPlain content = true) {depth fuel : Nat}
    {rest after : List Char} {value : Value}
    (ok : readValue depth fuel (writeString content ++ rest) = .ok (value, after)) :
    value = .text content := by
  obtain ⟨text, quoted, _⟩ := inside_writeString content rest
  rw [quoted] at ok
  cases fuel with
  | zero => cases ok
  | succ fuel =>
    rw [readValue] at ok
    obtain ⟨⟨chars, last⟩, read, same⟩ := bind_eq_ok.mp ok
    cases same
    exact congrArg Value.text (readString_plain plain quoted read)

/-- A text that reads as a value would, and can be told from its end. -/
def IsEntry (text : List Char) : Prop := startsValue text = true ∧ Stops text

section
variable {depth fuel : Nat} {blanks tail rest after : List Char}

theorem readItems_stops {texts : List (List Char)} (each : ∀ text ∈ texts, IsEntry text)
    (nonempty : texts ≠ []) (blank : IsBlank blanks) (closes : skipSpace tail = ']' :: rest)
    (ends : endsNumeral tail = true) {items : List Value}
    (ok : readItems depth fuel (joined blanks texts ++ tail) = .ok (items, after)) :
    after = rest := by
  -- A comma or the end of the list follows each item, so that no numeral runs on into it.
  induction texts generalizing fuel items after with
  | nil => exact absurd rfl nonempty
  | cons text texts ih =>
    obtain ⟨⟨starts, stops⟩, others⟩ := List.forall_mem_cons.mp each
    cases fuel with
    | zero => cases ok
    | succ fuel =>
      rw [readItems] at ok
      obtain ⟨⟨item, between⟩, read, more⟩ := bind_eq_ok.mp ok
      cases texts with
      | nil =>
        rw [joined_singleton] at read
        obtain rfl := stops depth fuel tail item between ends read
        dsimp only at more
        rw [closes] at more
        cases more
        rfl
      | cons next texts =>
        rw [joined_cons, List.append_assoc, List.cons_append, List.append_assoc] at read
        obtain rfl := stops depth fuel _ item _ rfl read
        have unblank := (head?_append (joined_starts (others next (.head _)).1 blanks texts) tail).2.1
        obtain ⟨⟨found, last⟩, later, same⟩ := bind_eq_ok.mp
          (show (readItems depth fuel (skipSpace _) >>= _) = _ from more)
        rw [skipSpace_append blank unblank] at later
        cases same
        exact ih others (List.cons_ne_nil _ _) later

/-- What is read for a field: its name, if that is plain, and something for its text. -/
def ReadsField (depth : Nat) (field : String × List Char) (entry : String × Value) : Prop :=
  (Text.isPlain field.1 = true → entry.1 = field.1) ∧
    ∃ fuel rest after, readValue depth fuel (field.2 ++ rest) = .ok (entry.2, after)

theorem readFields_field_eq_ok {name : String} {text more : List Char} (good : IsEntry text)
    (ends : endsNumeral more = true) {found : List (String × Value)}
    (ok : readFields depth (fuel + 1) (writeField (name, text) ++ more) = .ok (found, after)) :
    ∃ entry fields, ReadsField depth (name, text) entry ∧ found = entry :: fields ∧
      ((skipSpace more = '\x7d' :: after ∧ fields = []) ∨
        ∃ next, skipSpace more = ',' :: next ∧
          readFields depth fuel (skipSpace next) = .ok (fields, after)) := by
  obtain ⟨starts, stops⟩ := good
  obtain ⟨inside, quoted, within⟩ := inside_writeString name (':' :: ' ' :: (text ++ more))
  have same : writeField (name, text) ++ more = '"' :: inside := by
    simpa [writeField] using quoted
  rw [same, readFields] at ok
  obtain ⟨⟨chars, colon⟩, named, valued⟩ := bind_eq_ok.mp ok
  obtain rfl := within.readString named
  have blank : IsBlank [' '] := fun c member => by rw [List.mem_singleton.mp member]; rfl
  have skipped : skipSpace (' ' :: (text ++ more)) = text ++ more :=
    skipSpace_append blank (head?_append starts more).2.1
  obtain ⟨⟨value, last⟩, read, closed⟩ := bind_eq_ok.mp
    (show (readValue depth fuel (skipSpace (' ' :: (text ++ more))) >>= _) = _ from valued)
  rw [skipped] at read
  obtain rfl := stops depth fuel more value last ends read
  have reads : ReadsField depth (name, text) (String.ofList chars, value) :=
    ⟨fun plain => readString_plain plain quoted named, fuel, last, last, read⟩
  dsimp only at closed
  split at closed
  · rename_i next brace
    cases closed
    exact ⟨_, [], reads, rfl, .inl ⟨brace, rfl⟩⟩
  · rename_i next comma
    obtain ⟨⟨fields, final⟩, later, both⟩ := bind_eq_ok.mp closed
    cases both
    exact ⟨_, fields, reads, rfl, .inr ⟨next, comma, later⟩⟩
  · cases closed

theorem readFields_stops {fields : List (String × List Char)} (each : ∀ field ∈ fields, IsEntry field.2)
    (nonempty : fields ≠ []) (blank : IsBlank blanks) (closes : skipSpace tail = '\x7d' :: rest)
    (ends : endsNumeral tail = true) {found : List (String × Value)}
    (ok : readFields depth fuel (joined blanks (fields.map writeField) ++ tail) = .ok (found, after)) :
    after = rest ∧ List.Forall₂ (ReadsField depth) fields found := by
  induction fields generalizing fuel found after with
  | nil => exact absurd rfl nonempty
  | cons field fields ih =>
    obtain ⟨name, text⟩ := field
    obtain ⟨good, others⟩ := List.forall_mem_cons.mp each
    cases fuel with
    | zero => cases ok
    | succ fuel =>
      cases fields with
      | nil =>
        rw [List.map_singleton, joined_singleton] at ok
        obtain ⟨entry, fields, reads, rfl, ⟨brace, rfl⟩ | ⟨next, comma, _⟩⟩ :=
          readFields_field_eq_ok good ends ok
        · exact ⟨(List.cons.inj (brace.symm.trans closes)).2, .cons reads .nil⟩
        · rw [closes] at comma
          cases comma
      | cons next fields =>
        rw [List.map_cons, List.map_cons, joined_cons, ← List.map_cons, List.append_assoc] at ok
        obtain ⟨entry, found, reads, rfl, ⟨brace, _⟩ | ⟨after, comma, later⟩⟩ :=
          readFields_field_eq_ok good rfl ok
        · cases brace
        · obtain rfl := (List.cons.inj comma).2
          obtain ⟨_, quoted⟩ := joined_quoted writeField next rfl blanks fields
          rw [List.append_eq, List.append_assoc, quoted, skipSpace_append blank rfl, ← quoted] at later
          obtain ⟨same, others⟩ := ih others (List.cons_ne_nil _ _) later
          exact ⟨same, .cons reads others⟩

theorem stops_list (layout : Layout) (level : Nat) {texts : List (List Char)}
    (each : ∀ text ∈ texts, IsEntry text) : Stops (enclose layout level '[' ']' texts) := by
  intro depth fuel rest found after ends ok
  cases fuel with
  | zero => cases ok
  | succ fuel =>
    cases texts with
    | nil =>
      cases depth with
      | zero => cases ok
      | succ depth =>
        cases ok
        rfl
    | cons text texts =>
      obtain ⟨before, blanks, last, blankBefore, blank, blankLast, same⟩ :=
        enclose_eq layout level '[' ']' (List.cons_ne_nil text texts)
      simp only [same, List.cons_append, List.append_assoc, List.nil_append] at ok
      have starts := head?_append (joined_starts (each text (.head _)).1 blanks texts)
        (last ++ ']' :: rest)
      have closes : skipSpace (last ++ ']' :: rest) = ']' :: rest := skipSpace_append blankLast rfl
      cases depth with
      | zero => cases ok
      | succ depth =>
        rw [readValue] at ok
        dsimp only at ok
        rw [skipSpace_append blankBefore starts.2.1] at ok
        split at ok
        · rename_i closed
          rw [closed] at starts
          exact absurd rfl starts.2.2
        · obtain ⟨⟨items, final⟩, read, both⟩ := bind_eq_ok.mp ok
          cases both
          exact readItems_stops each (List.cons_ne_nil _ _) blank closes
            (endsNumeral_append blankLast rfl) read

theorem readValue_object {layout : Layout} {level : Nat} {fields : List (String × List Char)}
    (each : ∀ field ∈ fields, IsEntry field.2) (nonempty : fields ≠ []) {value : Value}
    (ok : readValue depth fuel
      (enclose layout level '\x7b' '\x7d' (fields.map writeField) ++ rest) = .ok (value, after)) :
    after = rest ∧ ∃ less found, List.Forall₂ (ReadsField less) fields found ∧
      value = .object (Assoc.ofPairs found) := by
  obtain ⟨field, fields, rfl⟩ := List.exists_cons_of_ne_nil nonempty
  obtain ⟨before, blanks, last, blankBefore, blank, blankLast, same⟩ :=
    enclose_eq layout level '\x7b' '\x7d' (List.cons_ne_nil (writeField field) (fields.map writeField))
  rw [← List.map_cons] at same
  simp only [same, List.cons_append, List.append_assoc, List.nil_append] at ok
  have closes : skipSpace (last ++ '\x7d' :: rest) = '\x7d' :: rest := skipSpace_append blankLast rfl
  obtain ⟨more, quoted⟩ := joined_quoted writeField field rfl blanks fields
  cases fuel with
  | zero => cases ok
  | succ fuel =>
    cases depth with
    | zero => cases ok
    | succ depth =>
      rw [readValue] at ok
      dsimp only at ok
      rw [quoted, skipSpace_append blankBefore rfl] at ok
      obtain ⟨⟨found, final⟩, read, both⟩ := bind_eq_ok.mp
        (show (readFields depth fuel ('"' :: more ++ (last ++ '\x7d' :: rest)) >>= _) = _ from ok)
      cases both
      rw [← quoted] at read
      obtain ⟨same, reads⟩ := readFields_stops each (List.cons_ne_nil _ _) blank closes
        (endsNumeral_append blankLast rfl) read
      exact ⟨same, depth, found, reads, rfl⟩

theorem stops_object (layout : Layout) (level : Nat) {fields : List (String × List Char)}
    (each : ∀ field ∈ fields, IsEntry field.2) :
    Stops (enclose layout level '\x7b' '\x7d' (fields.map writeField)) := by
  intro depth fuel rest found after ends ok
  cases fields with
  | nil =>
    cases fuel with
    | zero => cases ok
    | succ fuel =>
      cases depth with
      | zero => cases ok
      | succ depth =>
        cases ok
        rfl
  | cons field fields => exact (readValue_object each (List.cons_ne_nil _ _) ok).1

end

theorem stops_int {value : Int} (writable : (Number.int value).isWritable = true) :
    Stops (toString value).toList := by
  have starts := (starts_signed (toDigits_starts value.natAbs) (decide (value < 0))).2
  rw [← toList_int] at starts
  exact stops_scalar starts fun rest ends => ⟨_, readScalar_int writable ends⟩

theorem stops_real (value : Double) : Stops (value.textWith .json).toList := by
  cases value with
  | nan =>
    rw [Double.textWith]
    exact stops_scalar rfl fun rest _ => ⟨.real (.nan (some 0)), rfl⟩
  | infinite negative =>
    cases negative <;> exact stops_scalar rfl fun rest ends => ⟨_, readScalar_real rfl ends⟩
  | finite negative units fits =>
    have starts : startsScalar ((Double.finite negative units fits).textWith .json).toList = true := by
      rw [Double.textWith, String.toList_ofList]
      exact (starts_signed (magnitude_starts units) negative).2
    exact stops_scalar starts fun rest ends => ⟨_, readScalar_real rfl ends⟩

section
variable (layout : Layout)

theorem arrange_perm (fields : List (String × List Char)) : (arrange layout fields).Perm fields := by
  unfold arrange
  split
  · exact List.mergeSort_perm _ _
  · exact .refl _

mutual

/-- What can be written can be told from what follows it. -/
theorem stops_write (level : Nat) (a : Value) (writable : a.isWritable = true) :
    Stops (writeValue layout level a) := by
  cases a with
  | null => exact stops_scalar rfl fun rest _ => ⟨.null, rfl⟩
  | bool value => cases value <;> exact stops_scalar rfl fun rest _ => ⟨_, rfl⟩
  | int value => exact stops_int writable
  | real value => exact stops_real value
  | text content => exact stops_string content
  | list items => exact stops_list layout level (entries_items (level + 1) items writable)
  | tuple items => exact stops_list layout level (entries_items (level + 1) items writable)
  | object fields =>
    refine stops_object layout level fun field member => ?_
    exact entries_fields (level + 1) fields writable field ((arrange_perm layout _).mem_iff.mp member)
  | view entries =>
    refine stops_object layout level fun field member => ?_
    exact entries_entries (level + 1) entries writable field ((arrange_perm layout _).mem_iff.mp member)
termination_by structural a

theorem entries_items (level : Nat) (items : List Value) (writable : Value.allWritable items = true) :
    ∀ text ∈ writeItems layout level items, IsEntry text := by
  cases items with
  | nil => nofun
  | cons item items =>
    rw [Value.allWritable, Bool.and_eq_true] at writable
    exact List.forall_mem_cons.mpr ⟨⟨writeValue_starts layout level item, stops_write level item writable.1⟩,
      entries_items level items writable.2⟩
termination_by structural items

theorem entries_fields (level : Nat) (fields : List (String × Value))
    (writable : Value.fieldsWritable fields = true) :
    ∀ field ∈ writeFields layout level fields, IsEntry field.2 := by
  cases fields with
  | nil => nofun
  | cons field fields =>
    obtain ⟨name, entry⟩ := field
    rw [Value.fieldsWritable, Bool.and_eq_true] at writable
    exact List.forall_mem_cons.mpr ⟨⟨writeValue_starts layout level entry, stops_write level entry writable.1⟩,
      entries_fields level fields writable.2⟩
termination_by structural fields

theorem entries_entries (level : Nat) (entries : List (Value × Value))
    (writable : Value.entriesWritable entries = true) :
    ∀ field ∈ writeEntries layout level entries, IsEntry field.2 := by
  cases entries with
  | nil => nofun
  | cons pair entries =>
    obtain ⟨key, entry⟩ := pair
    rw [Value.entriesWritable, Bool.and_eq_true, Bool.and_eq_true] at writable
    exact List.forall_mem_cons.mpr ⟨⟨writeValue_starts layout level entry, stops_write level entry writable.1.2⟩,
      entries_entries level entries writable.2⟩
termination_by structural entries

end

end

theorem names_of_reads {depth : Nat} {fields : List (String × List Char)}
    {found : List (String × Value)} (reads : List.Forall₂ (ReadsField depth) fields found)
    (plain : ∀ field ∈ fields, Text.isPlain field.1 = true) :
    found.map (·.1) = fields.map (·.1) := by
  have named : List.Forall₂ (fun field entry => field.1 = entry.1) fields found :=
    ((List.forall₂_and_left _ _).mpr ⟨plain, reads⟩).imp fun field entry both => (both.2.1 both.1).symm
  have same : List.Forall₂ (· = ·) (fields.map (·.1)) (found.map (·.1)) :=
    List.forall₂_map_left_iff.mpr (List.forall₂_map_right_iff.mpr named)
  rw [List.forall₂_eq_eq_eq] at same
  exact same.symm

/-- A text under a name of an object is read under that name, whatever else the object holds, where
the names are plain and different. -/
theorem field_of_read [Host] {fields : Table Value}
    (writable : (Value.object fields).isWritable = true)
    (plain : ∀ field ∈ fields, Text.isPlain field.1 = true) (distinct : (fields.map (·.1)).Nodup)
    {name content : String} (member : (name, .text content) ∈ fields)
    (legible : Text.isPlain content = true) {value : Value}
    (ok : read (write .file (.object fields)) = .ok value) :
    ∃ found, value = .object found ∧ Value.field found name = .text content := by
  -- The fields are written in another order, in which the same texts stand under the same names.
  let written := writeFields .file 1 fields
  have sorted : (arrange .file written).Perm written := arrange_perm .file written
  have names : written.map (·.1) = fields.map (·.1) := by
    simp [written, writeFields_eq_map]
  have inside : (name, writeString content) ∈ arrange .file written := by
    refine sorted.mem_iff.mpr ?_
    simp only [written, writeFields_eq_map]
    exact List.mem_map.mpr ⟨_, member, rfl⟩
  obtain ⟨⟨whole, rest⟩, reading, closed⟩ := bind_eq_ok.mp ok
  obtain rfl : whole = value := by
    dsimp only at closed
    split at closed
    · exact pure_eq_ok.mp closed
    · cases closed
  have starts := head?_append (writeValue_starts .file 0 (.object fields)) []
  have skipped : skipSpace ([] ++ (writeValue .file 0 (.object fields) ++ [])) = _ :=
    skipSpace_append nofun starts.2.1
  rw [write, String.toList_ofList] at reading
  rw [List.nil_append, List.append_nil] at skipped
  rw [skipped, ← List.append_nil (writeValue .file 0 (.object fields)), writeValue] at reading
  have entries : ∀ field ∈ arrange .file written, IsEntry field.2 := fun field among =>
    entries_fields .file 1 fields writable field (sorted.mem_iff.mp among)
  obtain ⟨_, depth, found, reads, rfl⟩ := readValue_object entries (List.ne_nil_of_mem inside) reading
  have good : ∀ field ∈ arrange .file written, Text.isPlain field.1 = true := by
    intro field among
    have known : field.1 ∈ fields.map (·.1) := names ▸ List.mem_map_of_mem (sorted.mem_iff.mp among)
    obtain ⟨entry, listed, same⟩ := List.mem_map.mp known
    exact same ▸ plain entry listed
  have apart : (found.map (·.1)).Nodup := by
    rw [names_of_reads reads good, (sorted.map _).nodup_iff, names]
    exact distinct
  obtain ⟨⟨word, entry⟩, among, plainly, fuel, more, after, read⟩ :=
    source_of_forall₂ reads.flip inside
  obtain rfl : word = name := plainly (plain _ member)
  refine ⟨found, congrArg Value.object (Assoc.ofPairs_eq apart), ?_⟩
  rw [Value.field, Assoc.get?_of_mem apart among, text_of_read legible read]
  rfl

end Gamebook.Json
