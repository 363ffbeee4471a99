import Gamebook.Text.Numeral
import Mathlib.Data.List.Induction

/-!
Whole numbers as they are read: digits of every script, in front of which a sign may stand. A number
with too many digits is not read.
-/
namespace Gamebook.Text

theorem digitValue?_lt {c : Char} {value : Nat} (digit : digitValue? c = some value) : value < 10 := by
  obtain ⟨first, found, rfl⟩ := Option.map_eq_some_iff.mp digit
  have near := List.find?_some found
  simp only [Bool.and_eq_true, decide_eq_true_eq] at near
  omega

theorem isDecimal_iff {c : Char} : isDecimal c = true ↔ ∃ value, digitValue? c = some value :=
  Option.isSome_iff_exists

theorem isDigit_asciiDigit {c : Char} (decimal : isDecimal c = true) :
    (asciiDigit c).isDigit = true := by
  obtain ⟨value, digit⟩ := isDecimal_iff.mp decimal
  rw [asciiDigit, digit, Option.map_some, Option.getD_some]
  have small := digitValue?_lt digit
  clear digit
  decide +revert

theorem asciiDigit_other {c : Char} (other : isDecimal c = false) : asciiDigit c = c := by
  have none : digitValue? c = none :=
    Option.isNone_iff_eq_none.mp (Option.isSome_eq_false_iff.mp other)
  rw [asciiDigit, none]
  rfl

theorem toNat_of_isDigit {c : Char} (digit : c.isDigit = true) : 48 ≤ c.toNat ∧ c.toNat < 58 := by
  simp only [Char.isDigit, Bool.and_eq_true, decide_eq_true_eq] at digit
  exact ⟨digit.1, Nat.lt_succ_of_le digit.2⟩

theorem isDecimal_of_isDigit {c : Char} (digit : c.isDigit = true) : isDecimal c = true := by
  have bounds := toNat_of_isDigit digit
  rw [isDecimal, digitValue?, Option.isSome_map, List.find?_isSome]
  exact ⟨48, by simp [decimalZeros], by simpa using bounds⟩

/-- What a digit is read as is no mark of a numeral. -/
theorem asciiDigit_ne {c mark : Char} (digit : isDigit c = true)
    (other : isDigit mark = false) : asciiDigit c ≠ mark := by
  rintro rfl
  cases decimal : isDecimal c with
  | true =>
    have again := isDecimal_of_isDigit (isDigit_asciiDigit decimal)
    rw [isDigit, again] at other
    cases other
  | false =>
    rw [asciiDigit_other decimal, digit] at other
    cases other

theorem joinDigits?_plain {text : List Char} (apart : ∀ c ∈ text, c ≠ '_')
    (afterDigit : Bool) : joinDigits? afterDigit text = some text := by
  induction text generalizing afterDigit with
  | nil => rfl
  | cons c text ih =>
    obtain ⟨other, others⟩ := List.forall_mem_cons.mp apart
    rw [joinDigits?, if_neg other, ih others]
    · rfl
    · rintro d rest rfl
      exact absurd rfl other

theorem splitSign_plain {text : List Char} (minus : '-' ∉ text) (plus : '+' ∉ text) :
    splitSign text = (false, text) := by
  unfold splitSign
  split
  · simp at minus
  · simp at plus
  · rfl

section
variable {text : List Char}

theorem ascii_apart (digits : ∀ c ∈ text, isDigit c = true) {mark : Char}
    (other : isDigit mark = false) : ∀ c ∈ text.map asciiDigit, c ≠ mark :=
  List.forall_mem_map.mpr fun c member => asciiDigit_ne (digits c member) other

theorem splitSign_digits (digits : ∀ c ∈ text, isDigit c = true) :
    splitSign (text.map asciiDigit) = (false, text.map asciiDigit) :=
  splitSign_plain (fun inside => ascii_apart digits (by decide) '-' inside rfl)
    fun inside => ascii_apart digits (by decide) '+' inside rfl

/-- Behind its sign a numeral is read digit by digit. -/
theorem readInt?_split {whole : List Char} {negative : Bool} (digits : ∀ c ∈ text, isDigit c = true)
    (split : splitSign (whole.map asciiDigit) = (negative, text.map asciiDigit)) :
    readInt? whole = (readNat? (text.map asciiDigit)).bind fun value =>
      if maxDigits < text.length then none else some (applySign negative value) := by
  have joined := joinDigits?_plain (ascii_apart digits (by decide)) false
  rw [readInt?, split]
  dsimp only
  rw [joined, Option.bind_eq_bind, Option.bind_some, List.length_map]
  rfl

end

/-- Digits of a number, at least one. -/
structure IsNumeral (digits : List Char) : Prop where
  filled : digits ≠ []
  decimal : ∀ c ∈ digits, isDecimal c = true

/-- The number that decimal digits of any script denote. -/
def numberOf (digits : List Char) : Nat := Nat.ofDigitChars 10 (digits.map asciiDigit) 0

namespace IsNumeral
variable {digits : List Char}

theorem isDigit (numeral : IsNumeral digits) : ∀ c ∈ digits, Text.isDigit c = true := by
  intro c member
  rw [Text.isDigit, numeral.decimal c member, Bool.true_or]

theorem readNat? (numeral : IsNumeral digits) :
    Text.readNat? (digits.map asciiDigit) = some (numberOf digits) := by
  have all : (digits.map asciiDigit).all Char.isDigit = true := by
    rw [List.all_map, List.all_eq_true]
    exact fun c member => isDigit_asciiDigit (numeral.decimal c member)
  have filled : (digits.map asciiDigit).isEmpty = false := by simpa using numeral.filled
  rw [Text.readNat?, filled, all]
  rfl

theorem readInt? (numeral : IsNumeral digits) : Text.readInt? digits =
    if maxDigits < digits.length then none else some (numberOf digits : Int) := by
  rw [readInt?_split numeral.isDigit (splitSign_digits numeral.isDigit), numeral.readNat?]
  rfl

theorem readInt?_signed (numeral : IsNumeral digits) {sign : Char} (signed : sign = '+' ∨ sign = '-') :
    Text.readInt? (sign :: digits) =
      if maxDigits < digits.length then none
      else some (applySign (sign = '-') (numberOf digits)) := by
  have split : splitSign ((sign :: digits).map asciiDigit) =
      (decide (sign = '-'), digits.map asciiDigit) := by
    rcases signed with rfl | rfl
    · have plain : asciiDigit '+' = '+' := by decide
      rw [List.map_cons, plain]
      rfl
    · have plain : asciiDigit '-' = '-' := by decide
      rw [List.map_cons, plain]
      rfl
  rw [readInt?_split numeral.isDigit split, numeral.readNat?]
  rfl

end IsNumeral

section
variable {digits : List Char}

theorem numberOf_append {c : Char} {value : Nat} (digit : digitValue? c = some value) :
    numberOf (digits ++ [c]) = 10 * numberOf digits + value := by
  have read : asciiDigit c = Nat.digitChar value := by
    rw [asciiDigit, digit]
    rfl
  rw [numberOf, List.map_append, List.map_singleton, read, Nat.ofDigitChars_append,
    Nat.ofDigitChars_cons_digitChar_of_lt_ten (digitValue?_lt digit), Nat.ofDigitChars_nil, ← numberOf]

/-- Digits of any script, the most significant first, and the number that they denote. -/
inductive Denotes : List Char → Nat → Prop
  | first {c : Char} {value : Nat} : digitValue? c = some value → Denotes [c] value
  | next {digits : List Char} {number : Nat} {c : Char} {value : Nat} : Denotes digits number →
      digitValue? c = some value → Denotes (digits ++ [c]) (10 * number + value)

theorem numberOf_singleton {c : Char} {value : Nat} (digit : digitValue? c = some value) :
    numberOf [c] = value := by
  have none : numberOf [] = 0 := rfl
  rw [← List.nil_append [c], numberOf_append digit, none, Nat.mul_zero, Nat.zero_add]

theorem denotes_iff {number : Nat} :
    Denotes digits number ↔ IsNumeral digits ∧ numberOf digits = number := by
  constructor
  · intro denotes
    induction denotes with
    | first digit =>
      refine ⟨⟨List.cons_ne_nil _ _, List.forall_mem_singleton.mpr ?_⟩, numberOf_singleton digit⟩
      exact isDecimal_iff.mpr ⟨_, digit⟩
    | next before digit ih =>
      obtain ⟨numeral, rfl⟩ := ih
      refine ⟨⟨by simp, ?_⟩, numberOf_append digit⟩
      refine List.forall_mem_append.mpr ⟨numeral.decimal, List.forall_mem_singleton.mpr ?_⟩
      exact isDecimal_iff.mpr ⟨_, digit⟩
  · rintro ⟨numeral, rfl⟩
    -- The last digit is taken off, as it weighs least.
    induction digits using List.reverseRecOn with
    | nil => exact absurd rfl numeral.filled
    | append_singleton digits c ih =>
      obtain ⟨decimal, last⟩ := List.forall_mem_append.mp numeral.decimal
      obtain ⟨value, digit⟩ := isDecimal_iff.mp (last c (.head _))
      by_cases none : digits = []
      · subst none
        rw [List.nil_append, numberOf_singleton digit]
        exact .first digit
      · rw [numberOf_append digit]
        exact .next (ih ⟨none, decimal⟩) digit

theorem Denotes.lt {number : Nat} (denotes : Denotes digits number) :
    number < 10 ^ digits.length := by
  induction denotes with
  | first digit => exact digitValue?_lt digit
  | next before digit ih =>
    have small := digitValue?_lt digit
    rw [List.length_append, List.length_singleton, Nat.pow_succ]
    omega

theorem IsNumeral.numberOf_lt (numeral : IsNumeral digits) : numberOf digits < 10 ^ digits.length :=
  (denotes_iff.mpr ⟨numeral, rfl⟩).lt

theorem asciiDigit_of_isDigit {c : Char} (digit : c.isDigit = true) : asciiDigit c = c := by
  have bounds := toNat_of_isDigit digit
  have small : c.toNat - 48 < 10 := by omega
  have same : c = Nat.digitChar (c.toNat - 48) := by
    apply Char.toNat_inj.mp
    rw [Nat.toNat_digitChar_of_lt_ten small]
    omega
  rw [same]
  generalize c.toNat - 48 = value at small
  decide +revert

theorem numberOf_toDigits (number : Nat) : numberOf (Nat.toDigits 10 number) = number := by
  have plain : (Nat.toDigits 10 number).map asciiDigit = (Nat.toDigits 10 number).map id :=
    List.map_congr_left fun _ member =>
      asciiDigit_of_isDigit (Nat.isDigit_of_mem_toDigits (by decide) (by decide) member)
  rw [numberOf, plain, List.map_id, Nat.ofDigitChars_ten_toDigits]

theorem isNumeral_toDigits (number : Nat) : IsNumeral (Nat.toDigits 10 number) where
  filled := Nat.toDigits_ne_nil
  decimal := fun _ member =>
    isDecimal_of_isDigit (Nat.isDigit_of_mem_toDigits (by decide) (by decide) member)

end

/-- Digits that are not decimal, or more than can be read, make no number. -/
theorem readInt?_eq_none {text : List Char} (digits : allDigits text = true) :
    readInt? text = none ↔ (∃ c ∈ text, isDecimal c = false) ∨ maxDigits < text.length := by
  rw [allDigits, Bool.and_eq_true, List.all_eq_true] at digits
  obtain ⟨filled, digits⟩ := digits
  cases all : text.all isDecimal with
  | true =>
    have decimal := List.all_eq_true.mp all
    have numeral : IsNumeral text := ⟨by simpa using filled, decimal⟩
    have none : ¬ ∃ c ∈ text, isDecimal c = false := by
      rintro ⟨c, member, other⟩
      rw [decimal c member] at other
      cases other
    simp [numeral.readInt?, none]
  | false =>
    obtain ⟨c, member, other⟩ := List.all_eq_false.mp all
    rw [Bool.not_eq_true] at other
    have strange : (text.map asciiDigit).all Char.isDigit = false := by
      rw [List.all_map, List.all_eq_false]
      refine ⟨c, member, fun digit => ?_⟩
      rw [Function.comp_apply, asciiDigit_other other] at digit
      rw [isDecimal_of_isDigit digit] at other
      cases other
    rw [readInt?_split digits (splitSign_digits digits), readNat?, strange]
    simp only [Bool.not_false, Bool.or_true, if_true, Option.bind_none, true_iff]
    exact .inl ⟨c, member, other⟩

end Gamebook.Text
