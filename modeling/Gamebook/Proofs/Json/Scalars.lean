import Gamebook.Proofs.Json.Numerals
import Gamebook.Proofs.Value.Plain

/-!
The words and the numerals of JSON are read as the values that they were written for.
-/
namespace Gamebook.Json

/-- A text that no word begins with is a numeral. -/
theorem findSome?_words {text : List Char} (other : ∀ entry ∈ words, afterWord? entry.1 text = none) :
    (words.findSome? fun (word, value) => (afterWord? word text).map (value, ·)) = none := by
  rw [List.findSome?_eq_none_iff]
  intro entry member
  obtain ⟨word, value⟩ := entry
  dsimp only
  rw [other _ member]
  rfl

theorem afterWord?_none {word : String} {first : Char} {others text : List Char}
    (spelled : word.toList = first :: others) (differs : text.head? ≠ some first) :
    afterWord? word text = none := by
  unfold afterWord?
  rw [spelled, if_neg]
  cases text with
  | nil => simp
  | cons c text =>
    have other : first ≠ c := fun same => differs (congrArg some same.symm)
    simp [List.isPrefixOf, other]

theorem readScalar_digit {c : Char} (digit : c.isDigit = true) (rest : List Char) :
    readScalar (c :: rest) = readNumeral false (c :: rest) := by
  have other (first : Char) (letter : first.isDigit = false) : (c :: rest).head? ≠ some first := by
    rintro ⟨⟩
    rw [letter] at digit
    cases digit
  have noWord : ∀ entry ∈ words, afterWord? entry.1 (c :: rest) = none := by
    intro entry member
    simp only [words, List.mem_cons, List.not_mem_nil, or_false] at member
    rcases member with rfl | rfl | rfl | rfl | rfl | rfl <;>
      exact afterWord?_none rfl (other _ rfl)
  unfold readScalar
  rw [findSome?_words noWord]
  dsimp only
  split
  · rename_i same
    exact absurd (congrArg List.head? same) (other '-' rfl)
  · rfl

theorem readScalar_minus {c : Char} (digit : c.isDigit = true) (rest : List Char) :
    readScalar ('-' :: c :: rest) = readNumeral true (c :: rest) := by
  have notInfinite : c ≠ 'I' := by
    rintro rfl
    cases digit
  have noWord : ∀ entry ∈ words, afterWord? entry.1 ('-' :: c :: rest) = none := by
    intro entry member
    simp only [words, List.mem_cons, List.not_mem_nil, or_false] at member
    rcases member with rfl | rfl | rfl | rfl | rfl | rfl
    · exact afterWord?_none rfl nofun
    · exact afterWord?_none rfl nofun
    · exact afterWord?_none rfl nofun
    · exact afterWord?_none rfl nofun
    · exact afterWord?_none rfl nofun
    · have spelled : "-Infinity".toList = '-' :: 'I' :: "nfinity".toList := rfl
      unfold afterWord?
      rw [spelled, if_neg]
      simp [List.isPrefixOf, notInfinite.symm]
  unfold readScalar
  rw [findSome?_words noWord]
  rfl

/-- A numeral with its sign, where the digits begin as digits do. -/
theorem readScalar_signed {digits rest : List Char} (starts : digits.head?.any Char.isDigit = true)
    (negative : Bool) :
    readScalar ((if negative then ['-'] else []) ++ digits ++ rest) =
      readNumeral negative (digits ++ rest) := by
  cases digits with
  | nil => cases starts
  | cons c digits =>
    have digit : c.isDigit = true := by simpa using starts
    cases negative with
    | false => exact readScalar_digit digit (digits ++ rest)
    | true => exact readScalar_minus digit (digits ++ rest)

theorem toDigits_starts (number : Nat) :
    (Nat.toDigits 10 number).head?.any Char.isDigit = true := by
  have all := Text.all_toDigits number
  cases same : Nat.toDigits 10 number with
  | nil => exact absurd same Nat.toDigits_ne_nil
  | cons c digits =>
    rw [same, List.all_cons, Bool.and_eq_true] at all
    simpa using all.1

theorem toList_int (value : Int) : (toString value).toList =
    (if decide (value < 0) then ['-'] else []) ++ Nat.toDigits 10 value.natAbs := by
  cases value with
  | ofNat number =>
    show (Nat.repr number).toList = _
    simp [Nat.repr]
  | negSucc number =>
    show ("-" ++ Nat.repr (number + 1)).toList = _
    simp [Nat.repr, Int.negSucc_lt_zero]

theorem applySign_natAbs (value : Int) : Text.applySign (decide (value < 0)) value.natAbs = value := by
  unfold Text.applySign
  by_cases negative : value < 0
  · rw [if_pos (decide_eq_true negative)]
    omega
  · rw [if_neg (by simpa using negative)]
    omega

theorem readScalar_int {value : Int} (short : (Number.int value).isWritable = true) {rest : List Char}
    (ends : endsNumeral rest = true) :
    readScalar ((toString value).toList ++ rest) = .ok (.int value, rest) := by
  rw [toList_int, readScalar_signed (toDigits_starts _),
    readNumeral_int (by simpa [Number.isWritable] using short) _ ends, applySign_natAbs]

theorem text_starts (decimal : Decimal) : decimal.text.head?.any Char.isDigit = true := by
  have starts := toDigits_starts decimal.digits
  unfold Decimal.text
  cases same : Nat.toDigits 10 decimal.digits with
  | nil => exact absurd same Nat.toDigits_ne_nil
  | cons c digits =>
    rw [same] at starts
    dsimp only
    split
    · split
      · rfl
      · rename_i positive
        obtain ⟨count, some⟩ : ∃ count, (((c :: digits).length : Int) + decimal.exponent).toNat =
            count + 1 := ⟨_, (Nat.sub_add_cancel (by omega)).symm⟩
        rw [some]
        exact starts
    · exact starts

theorem magnitude_starts (units : Nat) :
    (Double.magnitudeText units).head?.any Char.isDigit = true := by
  unfold Double.magnitudeText
  split
  · rfl
  · exact text_starts _

theorem readScalar_magnitude {units : Nat} (fits : Fits units) (negative : Bool)
    {rest : List Char} (ends : endsNumeral rest = true) :
    readScalar ((if negative then ['-'] else []) ++ Double.magnitudeText units ++ rest) =
      .ok (.real (.finite negative units fits), rest) := by
  rcases Nat.eq_zero_or_pos units with rfl | positive
  · have zero : Double.magnitudeText 0 = ['0', '.', '0'] := if_pos rfl
    have whole : IsWhole ['0'] := isWhole_toDigits 0
    have digits : Nat.ofDigitChars 10 (['0'] ++ ['0']) 0 = 0 := rfl
    have point := readNumeral_point whole (List.cons_ne_nil '0' []) rfl negative ends
    rw [digits, Double.ofDecimal_zero fits] at point
    rw [zero, readScalar_signed rfl]
    exact point
  · have reads := Decimal.shortest_reads fits positive
    rw [readScalar_signed (magnitude_starts units), Double.magnitudeText,
      if_neg (Nat.ne_of_gt positive), readNumeral_decimal negative (Decimal.digits_pos positive reads) ends,
      Double.ofDecimal_of_reads fits (Decimal.readsAs_iff.mp reads)]

theorem readScalar_real {value : Double} (plain : (Value.real value).isPlain = true) {rest : List Char}
    (ends : endsNumeral rest = true) :
    readScalar ((value.textWith .json).toList ++ rest) = .ok (.real value, rest) := by
  cases value with
  | nan mark =>
    have same : mark = some 0 := by simpa [Value.isPlain] using plain
    rw [same]
    rfl
  | infinite negative => cases negative <;> rfl
  | finite negative units fits =>
    rw [Double.textWith, String.toList_ofList]
    exact readScalar_magnitude fits negative ends

end Gamebook.Json
