import Gamebook.Proofs.Json.Numerals
import Gamebook.Proofs.Text.Plain
import Gamebook.Time.Timestamp

/-!
A point in time with an offset is read from a saved game as it was written there, and only such
points in time are read at all.
-/
namespace Gamebook

namespace Timestamp

/-- What saved games can hold: a known offset of less than a day, which is none or at least a
second. -/
structure IsAware (time : Timestamp) : Prop where
  date : time.date.isValid = true
  clock : time.clock.isValid = true
  micro : time.clock.micro < 1000000
  offset : ∃ offset, time.offset = some offset ∧ offset.natAbs < dayMicros ∧
    (offset = 0 ∨ 1000000 ≤ offset.natAbs)

theorem all_padded (width number : Nat) : (padded width number).all Char.isDigit = true := by
  rw [padded, List.all_append, Text.all_toDigits, Bool.and_true]
  exact List.all_eq_true.mpr fun c member => by rw [List.eq_of_mem_replicate member]; rfl

section
variable {width number : Nat} (wide : 0 < width) (bound : number < 10 ^ width)
include wide bound

theorem length_padded : (padded width number).length = width := by
  have short := (Nat.length_toDigits_le_iff (by decide : 1 < 10) wide).mpr bound
  simp only [padded, List.length_append, List.length_replicate]
  omega

theorem digits?_padded (rest : List Char) :
    digits? width (padded width number ++ rest) = some (number, rest) := by
  have length := length_padded wide bound
  have value : Nat.ofDigitChars 10 (padded width number) 0 = number := by
    rw [padded, Nat.ofDigitChars_append, Nat.ofDigitChars_replicate_zero, Nat.mul_zero,
      Nat.ofDigitChars_ten_toDigits]
  have front : (padded width number ++ rest).take width = padded width number := List.take_left' length
  have back : (padded width number ++ rest).drop width = rest := List.drop_left' length
  simp only [digits?, front, back, length, all_padded, value]
  rfl

theorem padded_head : ∃ c digits, padded width number = c :: digits ∧ c.isDigit = true := by
  have length := length_padded wide bound
  have all := all_padded width number
  cases same : padded width number with
  | nil =>
    rw [same] at length
    exact absurd length (Nat.ne_of_lt wide)
  | cons c digits =>
    rw [same, List.all_cons, Bool.and_eq_true] at all
    exact ⟨c, digits, rfl, all.1⟩

end

section
variable {value : Nat} (bound : value < 100)
include bound

theorem parts?_colon {separated : Option Bool} (colons : separated.getD true = true) (parts : Nat)
    {span : Nat} (more : 0 < span) (rest : List Char) :
    parts? separated (parts + 1) (span + 3) (padded 2 value ++ ':' :: rest) =
      (parts? (some true) parts span rest).map fun (values, result) => (value :: values, result) := by
  have wide : 0 < 2 := by decide
  have colon : peek (':' :: rest) = ':' := rfl
  have front : (padded 2 value ++ ':' :: rest).drop 3 = rest := by
    rw [List.append_cons]
    exact List.drop_left' (by rw [List.length_append, length_padded wide bound]; rfl)
  rw [parts?, digits?_padded wide bound]
  simp only [Option.bind_eq_bind, Option.bind_some, colon]
  rw [if_neg (by omega), if_neg (by decide), beq_self_eq_true, colons, if_neg (by decide), if_pos rfl,
    front, Nat.add_sub_cancel_right]
  cases parts? (some true) parts span rest <;> rfl

theorem parts?_end (parts : Nat) (rest : List Char) :
    parts? (some true) (parts + 1) 2 (padded 2 value ++ rest) =
      some ([value], 0, peek rest != '\x00') := by
  rw [parts?, digits?_padded (by decide) bound]
  rfl

/-- The last part of a clock with a fraction to the microsecond. -/
theorem parts?_fraction {micro : Nat} (small : micro < 1000000) {rest : List Char}
    (ends : Text.startsWithoutDigit rest = true) :
    parts? (some true) 1 9 (padded 2 value ++ '.' :: (padded 6 micro ++ rest)) =
      some ([value], micro, peek rest != '\x00') := by
  have read : digits? 6 (padded 6 micro ++ rest) = some (micro, rest) :=
    digits?_padded (by decide) small rest
  have after : ([] ++ rest).dropWhile Char.isDigit = rest := Text.dropWhile_digits rfl ends
  rw [List.nil_append] at after
  have fraction : fraction? 6 (padded 6 micro ++ rest) = some (micro, peek rest != '\x00') := by
    show (digits? 6 (padded 6 micro ++ rest)).bind _ = _
    rw [read, Option.bind_some]
    simp [after]
  rw [parts?, digits?_padded (by decide) bound]
  show (fraction? 6 (padded 6 micro ++ rest)).bind _ = _
  rw [fraction]
  rfl

end

theorem parts?_clock {hour minute second micro span : Nat} (hours : hour < 100) (minutes : minute < 100)
    {last : List Char} {more : Bool}
    (read : parts? (some true) 1 (span + 1) last = some ([second], micro, more)) :
    parts? none 3 (span + 7) (padded 2 hour ++ ':' :: (padded 2 minute ++ ':' :: last)) =
      some ([hour, minute, second], micro, more) := by
  have between : parts? (some true) 2 (span + 4) (padded 2 minute ++ ':' :: last) =
      some ([minute, second], micro, more) := by
    rw [parts?_colon minutes rfl 1 (Nat.succ_pos span), read]
    rfl
  rw [parts?_colon hours rfl 2 (Nat.succ_pos _), between]
  rfl

/-- A clock is read back before anything that begins with no digit. -/
theorem clock?_text {clock : Clock} (valid : clock.isValid = true) (small : clock.micro < 1000000)
    (withSeconds : Bool) {rest : List Char} (ends : Text.startsWithoutDigit rest = true) :
    clock? (clockText withSeconds clock).length (clockText withSeconds clock ++ rest) =
      some (clock, peek rest != '\x00') := by
  simp only [Clock.isValid, Bool.and_eq_true, decide_eq_true_eq] at valid
  have hour : clock.hour < 100 := by omega
  have minute : clock.minute < 100 := by omega
  have second : clock.second < 100 := by omega
  have wide : 0 < 2 := by decide
  have lengths := And.intro (length_padded wide hour)
    (And.intro (length_padded wide minute) (length_padded wide second))
  unfold clock?
  by_cases whole : clock.micro = 0
  · by_cases shown : withSeconds = true ∨ clock.second ≠ 0
    · have text : clockText withSeconds clock = padded 2 clock.hour ++ ':' ::
          (padded 2 clock.minute ++ ':' :: padded 2 clock.second) := by
        simp [clockText, whole, shown]
      have length : (clockText withSeconds clock).length = 1 + 7 := by
        rw [text]
        simp [lengths]
      rw [length, text]
      simp only [List.append_assoc, List.cons_append]
      rw [parts?_clock hour minute (parts?_end second 0 rest)]
      show some (Clock.mk clock.hour clock.minute clock.second 0, _) = _
      rw [← whole]
    · obtain ⟨short, none⟩ := not_or.mp shown
      have none : clock.second = 0 := Decidable.not_not.mp none
      have text : clockText withSeconds clock =
          padded 2 clock.hour ++ ':' :: padded 2 clock.minute := by
        simp [clockText, whole, short, none]
      have length : (clockText withSeconds clock).length = 2 + 3 := by
        rw [text]
        simp [lengths]
      rw [length, text]
      simp only [List.append_assoc, List.cons_append]
      rw [parts?_colon hour rfl 2 (by decide), parts?_end minute 1]
      have same : Clock.mk clock.hour clock.minute clock.second clock.micro =
          Clock.mk clock.hour clock.minute 0 0 := by rw [whole, none]
      exact congrArg (fun known => some (known, _)) same.symm
  · have text : clockText withSeconds clock = padded 2 clock.hour ++ ':' :: (padded 2 clock.minute ++
        ':' :: (padded 2 clock.second ++ '.' :: padded 6 clock.micro)) := by simp [clockText, whole]
    have length : (clockText withSeconds clock).length = 8 + 7 := by
      rw [text]
      simp [lengths, length_padded (by decide : 0 < 6) small]
    rw [length, text]
    simp only [List.append_assoc, List.cons_append]
    rw [parts?_clock hour minute (parts?_fraction second small ends)]
    rfl

theorem date_bounds {date : Calendar.Date} (valid : date.isValid = true) :
    date.year < 10 ^ 4 ∧ date.month < 10 ^ 2 ∧ date.day < 10 ^ 2 := by
  have days : Calendar.daysInMonth date.year date.month ≤ 31 := by
    have all : ∀ length ∈ Calendar.monthLengths date.year, length ≤ 31 := by
      unfold Calendar.monthLengths
      cases Calendar.isLeap date.year <;> decide
    unfold Calendar.daysInMonth
    cases found : (Calendar.monthLengths date.year)[date.month - 1]? with
    | none => exact Nat.zero_le 31
    | some length => exact all length (List.mem_of_getElem? found)
  have last : Calendar.lastYear = 9999 := rfl
  simp only [Calendar.Date.isValid, Bool.and_eq_true, decide_eq_true_eq] at valid
  omega

theorem peek_padded {width number : Nat} (wide : 0 < width) (bound : number < 10 ^ width)
    (rest : List Char) {mark : Char} (other : mark.isDigit = false) :
    peek (padded width number ++ rest) ≠ mark := by
  obtain ⟨c, digits, same, digit⟩ := padded_head wide bound
  rw [same]
  rintro rfl
  rw [show c.isDigit = false from other] at digit
  cases digit

theorem date?_text {date : Calendar.Date} (valid : date.isValid = true) (rest : List Char) :
    date? (padded 4 date.year ++ '-' :: (padded 2 date.month ++ '-' :: (padded 2 date.day ++ rest))) 10 =
      some date := by
  obtain ⟨year, month, day⟩ := date_bounds valid
  have wide : 0 < 2 := by decide
  have dash (after : List Char) : peek ('-' :: after) = '-' := rfl
  rw [date?, digits?_padded (by decide) year]
  simp only [Option.bind_eq_bind, Option.bind_some, dash, beq_self_eq_true, if_true, List.drop_succ_cons,
    List.drop_zero, digits?_padded wide month, digits?_padded wide day]
  rw [if_neg (peek_padded wide month _ rfl)]
  rfl

theorem dateLength?_text {date : Calendar.Date} (valid : date.isValid = true) (rest : List Char) :
    dateLength? (padded 4 date.year ++ '-' :: (padded 2 date.month ++ '-' :: (padded 2 date.day ++ rest))) =
      some 10 := by
  obtain ⟨year, month, day⟩ := date_bounds valid
  have wide : 0 < 2 := by decide
  have lengths := And.intro (length_padded (by decide : 0 < 4) year)
    (And.intro (length_padded wide month) (length_padded wide day))
  have dash (after : List Char) : peek ((padded 4 date.year ++ '-' :: after).drop 4) = '-' := by
    rw [List.drop_left' lengths.1]
    rfl
  have past (after : List Char) : (padded 4 date.year ++ '-' :: after).drop 5 = after := by
    rw [List.append_cons]
    exact List.drop_left' (by rw [List.length_append, lengths.1]; rfl)
  have month_digit : ¬ peek ((padded 4 date.year ++ '-' ::
      (padded 2 date.month ++ '-' :: (padded 2 date.day ++ rest))).drop 5) = 'W' := by
    rw [past]
    exact peek_padded wide month _ rfl
  unfold dateLength?
  dsimp only
  rw [if_neg (by simp [lengths]; omega), if_neg (by simp [lengths]; omega), if_pos (dash _),
    if_neg month_digit]

theorem clockText_plain (withSeconds : Bool) (clock : Clock) : ∀ c ∈ clockText withSeconds clock,
    c.isDigit = true ∨ c = ':' ∨ c = '.' := by
  intro c member
  have digit {width value : Nat} (inside : c ∈ padded width value) : c.isDigit = true :=
    List.all_eq_true.mp (all_padded width value) c inside
  simp only [clockText, List.mem_append, List.mem_cons] at member
  rcases member with ((hour | rfl | minute) | second) | micro
  · exact .inl (digit hour)
  · exact .inr (.inl rfl)
  · exact .inl (digit minute)
  · split at second
    · rcases List.mem_cons.mp second with rfl | second
      · exact .inr (.inl rfl)
      · exact .inl (digit second)
    · cases second
  · split at micro
    · cases micro
    · rcases List.mem_cons.mp micro with rfl | micro
      · exact .inr (.inr rfl)
      · exact .inl (digit micro)

theorem dayMicros_pos : 0 < dayMicros := Nat.mul_pos (by decide) (by decide)

theorem ofMicros_valid {micros : Nat} (bound : micros < dayMicros) :
    (Clock.ofMicros micros).isValid = true ∧ (Clock.ofMicros micros).micro < 1000000 ∧
      (Clock.ofMicros micros).micros = micros := by
  have day : dayMicros = 86400000000 := rfl
  rw [day] at bound
  have hour : micros / 1000000 / 3600 ≤ 23 := by omega
  have minute : micros / 1000000 / 60 % 60 ≤ 59 := by omega
  have second : micros / 1000000 % 60 ≤ 59 := by omega
  refine ⟨?_, Nat.mod_lt _ (by decide), ?_⟩
  · simp only [Clock.isValid, Bool.and_eq_true, decide_eq_true_eq]
    exact ⟨⟨hour, minute⟩, second⟩
  · simp only [Clock.micros, Clock.ofMicros]
    omega

section
variable {offset : Int} (bound : offset.natAbs < dayMicros)
  (counts : offset = 0 ∨ 1000000 ≤ offset.natAbs)
include bound counts

theorem offset?_text :
    offset? (decide (offset < 0)) (clockText false (Clock.ofMicros offset.natAbs)) = some offset := by
  obtain ⟨valid, small, same⟩ := ofMicros_valid bound
  have ends : Text.startsWithoutDigit [] = true := rfl
  have read := clock?_text valid small false ends
  rw [List.append_nil] at read
  -- An offset of less than a second would be read as none.
  have micros : (if offset.natAbs < 1000000 then 0 else (offset.natAbs : Int)) = offset.natAbs := by
    split <;> omega
  unfold offset?
  rw [read, Option.bind_eq_bind, Option.bind_some]
  dsimp only
  rw [if_neg (by decide), same, micros, if_pos (by omega)]
  by_cases negative : offset < 0
  · rw [if_pos (decide_eq_true negative)]
    exact congrArg some (by omega)
  · rw [if_neg (by simpa using negative)]
    exact congrArg some (by omega)

theorem time?_text {clock : Clock} (valid : clock.isValid = true) (small : clock.micro < 1000000) :
    time? (clockText true clock ++ offsetText offset) = some (clock, some offset) := by
  have zone := offset?_text bound counts
  have none : ∀ c ∈ clockText true clock, (!isZoneMark c) = true := by
    intro c member
    rcases clockText_plain true clock c member with digit | rfl | rfl
    · have other (mark : Char) (letter : mark.isDigit = false) : c ≠ mark := by
        rintro rfl
        rw [letter] at digit
        cases digit
      simp [isZoneMark, other]
    · rfl
    · rfl
  have before (mark : Char) (marks : isZoneMark mark = true) (rest : List Char) :
      (clockText true clock ++ mark :: rest).takeWhile (!isZoneMark ·) = clockText true clock := by
    rw [List.takeWhile_append_of_pos none, List.takeWhile_cons, marks]
    exact List.append_nil _
  unfold time? offsetText
  by_cases negative : offset < 0
  · rw [decide_eq_true negative] at zone
    rw [if_pos negative]
    dsimp only
    rw [before '-' rfl, clock?_text valid small true rfl, Option.bind_eq_bind, Option.bind_some,
      List.drop_left]
    show (offset? true _).bind _ = _
    rw [zone]
    rfl
  · rw [decide_eq_false negative] at zone
    rw [if_neg negative]
    dsimp only
    rw [before '+' rfl, clock?_text valid small true rfl, Option.bind_eq_bind, Option.bind_some,
      List.drop_left]
    show (offset? false _).bind _ = _
    rw [zone]
    rfl

end

/-- Between the plus sign and the letter before the clock there are no blanks. -/
theorem text_chars (time : Timestamp) : ∀ c ∈ time.text.toList, 43 ≤ c.toNat ∧ c.toNat ≤ 84 := by
  have digit {c : Char} (digit : c.isDigit = true) : 43 ≤ c.toNat ∧ c.toNat ≤ 84 := by
    have bounds : 48 ≤ c.toNat ∧ c.toNat ≤ 57 := Char.isDigit_iff_toNat.mp digit
    omega
  have padded {c : Char} {width value : Nat} (inside : c ∈ padded width value) :
      43 ≤ c.toNat ∧ c.toNat ≤ 84 := digit (List.all_eq_true.mp (all_padded width value) c inside)
  have clock {c : Char} {withSeconds : Bool} {clock : Clock}
      (inside : c ∈ clockText withSeconds clock) : 43 ≤ c.toNat ∧ c.toNat ≤ 84 := by
    rcases clockText_plain _ _ c inside with value | rfl | rfl
    · exact digit value
    · decide
    · decide
  have offset {c : Char} {offset : Int} (inside : c ∈ offsetText offset) :
      43 ≤ c.toNat ∧ c.toNat ≤ 84 := by
    rcases List.mem_cons.mp inside with rfl | inside
    · split <;> decide
    · exact clock inside
  intro c member
  simp only [text, String.toList_ofList, List.mem_append, List.mem_cons] at member
  rcases member with (((year | rfl | month) | rfl | day) | rfl | inside) | inside
  · exact padded year
  · decide
  · exact padded month
  · decide
  · exact padded day
  · decide
  · exact clock inside
  · cases zone : time.offset with
    | none =>
      rw [zone] at inside
      cases inside
    | some known =>
      rw [zone] at inside
      exact offset inside

theorem text_unmarked (time : Timestamp) : Text.mark ∉ time.text.toList := by
  intro inside
  have bound : Text.mark.toNat ≤ 84 := (text_chars time _ inside).2
  exact absurd bound (by decide)

theorem trim_text {text : List Char} (apart : ∀ c ∈ text, Text.isBlank c = false) :
    Text.trim text = text := by
  have none {list : List Char} (apart : ∀ c ∈ list, Text.isBlank c = false) :
      list.dropWhile Text.isBlank = list := by
    cases list with
    | nil => rfl
    | cons c list => rw [List.dropWhile_cons, if_neg (by simp [apart c (.head _)])]
  rw [Text.trim, none apart, none fun c member => apart c (List.mem_reverse.mp member),
    List.reverse_reverse]

theorem spread_text {text : List Char} (small : ∀ c ∈ text, c.toNat < 128) :
    text.flatMap spread = text := by
  induction text with
  | nil => rfl
  | cons c text ih =>
    obtain ⟨first, others⟩ := List.forall_mem_cons.mp small
    have bound : c.val ≤ 0x7f := UInt32.le_iff_toNat_le.mpr (Nat.le_of_lt_succ first)
    have narrow : c.utf8Size = 1 := if_pos bound
    rw [List.flatMap_cons, ih others, spread, narrow]
    rfl

section
variable {text : List Char} (unmarked : Text.mark ∉ text)
include unmarked

theorem plainSeparator_chars : plainSeparator (Text.signs text) = Text.signs text := by
  have none : (separatorPlaces.find? fun place =>
      ((Text.signs text)[place]?.bind Text.half?).isSome) = none := by
    refine List.find?_eq_none.mpr fun place _ => ?_
    rw [Text.signs_chars unmarked, List.getElem?_map]
    cases text[place]? <;> simp [Text.half?]
  rw [plainSeparator, none]

end

/-- The date is what the first ten characters are. -/
theorem drop_date {date : Calendar.Date} (valid : date.isValid = true) (rest : List Char) :
    (padded 4 date.year ++ '-' :: (padded 2 date.month ++ '-' :: (padded 2 date.day ++ rest))).drop 10 =
      rest := by
  obtain ⟨year, month, day⟩ := date_bounds valid
  have length : (padded 4 date.year ++ ['-'] ++ padded 2 date.month ++ ['-'] ++
      padded 2 date.day).length = 10 := by
    simp [length_padded (by decide : 0 < 4) year, length_padded (by decide : 0 < 2) month,
      length_padded (by decide : 0 < 2) day]
  simpa using (List.drop_left' length : (_ ++ rest).drop 10 = rest)

theorem ofText?_text {time : Timestamp} (aware : time.IsAware) : ofText? time.text = some time := by
  obtain ⟨offset, zone, bound, counts⟩ := aware.offset
  have chars := text_chars time
  have narrow : time.text.toList.flatMap spread = time.text.toList :=
    spread_text fun c inside => Nat.lt_of_le_of_lt (chars c inside).2 (by decide)
  have written : time.text.toList = padded 4 time.date.year ++ '-' :: (padded 2 time.date.month ++ '-' ::
      (padded 2 time.date.day ++ 'T' :: (clockText true time.clock ++ offsetText offset))) := by
    simp [text, zone]
  have after : time.text.toList.drop 10 = 'T' :: (clockText true time.clock ++ offsetText offset) :=
    written ▸ drop_date aware.date _
  unfold ofText?
  rw [plainSeparator_chars (text_unmarked time), Text.flatten_signs, Text.chars?_ofList (text_unmarked time)]
  simp only [Option.bind_eq_bind, Option.bind_some, narrow]
  rw [written, dateLength?_text aware.date, Option.bind_some, date?_text aware.date,
    Option.bind_some, ← written, after]
  dsimp only
  rw [show 'T'.utf8Size - 1 = 0 from rfl, List.drop_zero, time?_text bound counts aware.clock aware.micro,
    Option.bind_some]
  dsimp only
  rw [aware.date, aware.clock, ← zone]
  rfl

theorem ofSaved?_text {time : Timestamp} (aware : time.IsAware) : ofSaved? time.text = some time := by
  have chars := text_chars time
  have trimmed : Text.trim time.text.toList = time.text.toList := by
    refine trim_text fun c member => ?_
    obtain ⟨lower, upper⟩ := chars c member
    simp only [Text.isBlank, Bool.or_eq_false_iff, Bool.and_eq_false_iff, decide_eq_false_iff_not,
      beq_eq_false_iff_ne]
    omega
  have last : time.text.toList.getLast? ≠ some 'Z' := by
    intro ends
    have bound := (chars 'Z' (List.mem_of_getLast? ends)).2
    revert bound
    decide
  obtain ⟨offset, zone, _⟩ := aware.offset
  unfold ofSaved?
  dsimp only
  rw [trimmed, if_neg last, String.ofList_toList, ofText?_text aware, Option.map_some, orUniversal,
    zone, Option.getD_some, ← zone]

theorem ofDigitChars_lt {digits : List Char} (all : digits.all Char.isDigit = true) :
    Nat.ofDigitChars 10 digits 0 < 10 ^ digits.length := by
  induction digits with
  | nil => exact Nat.one_pos
  | cons c digits ih =>
    obtain ⟨digit, others⟩ := Bool.and_eq_true_iff.mp all
    have bounds : 48 ≤ c.toNat ∧ c.toNat ≤ 57 := Char.isDigit_iff_toNat.mp digit
    have value : c.toNat - '0'.toNat ≤ 9 := Nat.sub_le_of_le_add bounds.2
    rw [Nat.ofDigitChars_cons, Nat.ofDigitChars_eq_ofDigitChars_zero, Nat.mul_zero, Nat.zero_add,
      List.length_cons, Nat.pow_succ]
    calc 10 ^ digits.length * (c.toNat - '0'.toNat) + Nat.ofDigitChars 10 digits 0
        < 10 ^ digits.length * (c.toNat - '0'.toNat) + 10 ^ digits.length :=
          Nat.add_lt_add_left (ih others) _
      _ ≤ 10 ^ digits.length * 9 + 10 ^ digits.length :=
          Nat.add_le_add_right (Nat.mul_le_mul_left _ value) _
      _ = 10 ^ digits.length * 10 := (Nat.mul_succ _ 9).symm

theorem fraction?_lt {span micro : Nat} {text : List Char} {more : Bool}
    (read : fraction? span text = some (micro, more)) : micro < 1000000 := by
  obtain ⟨⟨value, rest⟩, digits, last⟩ := Option.bind_eq_some_iff.mp read
  obtain ⟨rfl, _⟩ := Prod.mk.inj (Option.some.inj last)
  unfold digits? at digits
  dsimp only at digits
  split at digits
  · rename_i fits
    obtain ⟨length, all⟩ := Bool.and_eq_true_iff.mp fits
    obtain ⟨rfl, _⟩ := Prod.mk.inj (Option.some.inj digits)
    have bound := ofDigitChars_lt all
    rw [of_decide_eq_true length] at bound
    calc Nat.ofDigitChars 10 (text.take (min 6 span)) 0 * 10 ^ (6 - min 6 span)
        < 10 ^ min 6 span * 10 ^ (6 - min 6 span) :=
          Nat.mul_lt_mul_of_pos_right bound (Nat.pow_pos (by decide))
      _ = 1000000 := by rw [← Nat.pow_add, Nat.add_sub_cancel' (Nat.min_le_left 6 span)]
  · cases digits

theorem parts?_lt {separated : Option Bool} {parts span micro : Nat} {text : List Char}
    {values : List Nat} {more : Bool}
    (read : parts? separated parts span text = some (values, micro, more)) : micro < 1000000 := by
  induction parts generalizing separated span text values with
  | zero =>
    obtain ⟨⟨found, _⟩, fraction, last⟩ := Option.bind_eq_some_iff.mp read
    obtain ⟨_, rfl, _⟩ := Option.some.inj last
    exact fraction?_lt fraction
  | succ parts ih =>
    obtain ⟨⟨value, rest⟩, _, read⟩ := Option.bind_eq_some_iff.mp read
    dsimp only at read
    split at read
    · cases read
      decide
    · split at read
      · obtain ⟨⟨found, _⟩, fraction, last⟩ := Option.bind_eq_some_iff.mp read
        cases last
        exact fraction?_lt fraction
      · split at read
        · cases read
        · obtain ⟨⟨others, found, _⟩, later, last⟩ := Option.bind_eq_some_iff.mp read
          cases last
          exact ih later

theorem clock?_micro {span : Nat} {text : List Char} {clock : Clock} {more : Bool}
    (read : clock? span text = some (clock, more)) : clock.micro < 1000000 := by
  obtain ⟨⟨values, micro, _⟩, parts, last⟩ := Option.bind_eq_some_iff.mp read
  cases last
  exact parts?_lt parts

theorem offset?_bounds {negative : Bool} {text : List Char} {offset : Int}
    (read : offset? negative text = some offset) :
    offset.natAbs < dayMicros ∧ (offset = 0 ∨ 1000000 ≤ offset.natAbs) := by
  obtain ⟨⟨clock, more⟩, _, read⟩ := Option.bind_eq_some_iff.mp read
  dsimp only at read
  split at read
  · cases read
  · have counts : (if clock.micros < 1000000 then 0 else (clock.micros : Int)) = 0 ∨
        1000000 ≤ (if clock.micros < 1000000 then 0 else (clock.micros : Int)) := by
      split <;> omega
    generalize (if clock.micros < 1000000 then 0 else (clock.micros : Int)) = micros at read counts
    split at read
    · cases read
      cases negative <;> simp only [if_true, Bool.false_eq_true, if_false] <;> omega
    · cases read

/-- What is known of a point in time that was read, before an unknown offset is settled. -/
structure IsRead (time : Timestamp) : Prop where
  date : time.date.isValid = true
  clock : time.clock.isValid = true
  micro : time.clock.micro < 1000000
  offset : ∀ offset, time.offset = some offset →
    offset.natAbs < dayMicros ∧ (offset = 0 ∨ 1000000 ≤ offset.natAbs)

theorem time?_read {text : List Char} {clock : Clock} {offset? : Option Int}
    (read : time? text = some (clock, offset?)) : clock.micro < 1000000 ∧
      ∀ offset, offset? = some offset →
        offset.natAbs < dayMicros ∧ (offset = 0 ∨ 1000000 ≤ offset.natAbs) := by
  obtain ⟨⟨found, more⟩, first, read⟩ := Option.bind_eq_some_iff.mp read
  have small := clock?_micro first
  dsimp only at read
  split at read
  · split at read
    · cases read
    · cases read
      exact ⟨small, nofun⟩
  · split at read
    · cases read
      refine ⟨small, ?_⟩
      rintro offset ⟨⟩
      exact ⟨dayMicros_pos, .inl rfl⟩
    · cases read
  · obtain ⟨known, zone, last⟩ := Option.bind_eq_some_iff.mp read
    cases last
    refine ⟨small, ?_⟩
    rintro offset ⟨⟩
    exact offset?_bounds zone

theorem ofText?_read {text : String} {time : Timestamp} (read : ofText? text = some time) :
    time.IsRead := by
  obtain ⟨chars, _, read⟩ := Option.bind_eq_some_iff.mp read
  obtain ⟨length, _, read⟩ := Option.bind_eq_some_iff.mp read
  obtain ⟨date, _, read⟩ := Option.bind_eq_some_iff.mp read
  have build {clock : Clock} {zone? : Option Int}
      (read : (if date.isValid && clock.isValid then some (Timestamp.mk date clock zone?) else none) =
        some time) (small : clock.micro < 1000000)
      (bounds : ∀ offset, zone? = some offset →
        offset.natAbs < dayMicros ∧ (offset = 0 ∨ 1000000 ≤ offset.natAbs)) : time.IsRead := by
    split at read
    · rename_i valid
      cases read
      obtain ⟨dated, clocked⟩ := Bool.and_eq_true_iff.mp valid
      exact ⟨dated, clocked, small, bounds⟩
    · cases read
  dsimp only at read
  split at read
  · exact build read (by decide) nofun
  · obtain ⟨⟨clock, zone?⟩, timed, read⟩ := Option.bind_eq_some_iff.mp read
    obtain ⟨small, bounds⟩ := time?_read timed
    exact build read small bounds

theorem ofSaved?_aware {text : String} {time : Timestamp} (read : ofSaved? text = some time) :
    time.IsAware := by
  unfold ofSaved? at read
  dsimp only at read
  rw [Option.map_eq_some_iff] at read
  obtain ⟨found, read, rfl⟩ := read
  obtain ⟨date, clock, micro, bounds⟩ := ofText?_read read
  refine ⟨date, clock, micro, found.offset.getD 0, rfl, ?_⟩
  cases zone : found.offset with
  | none => exact ⟨dayMicros_pos, .inl rfl⟩
  | some offset => exact bounds offset zone

end Timestamp
end Gamebook
