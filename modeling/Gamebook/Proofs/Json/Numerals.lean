import Gamebook.Json.Reader
import Gamebook.Json.Writer
import Gamebook.Proofs.Number.Decimal
import Gamebook.Proofs.Outcome
import Gamebook.Proofs.Text.Digits

/-!
Numerals are read as they were written, wherever something follows that is no part of a numeral.
-/
namespace Gamebook

namespace Text

theorem toDigits_head {number : Nat} (positive : 0 < number) :
    ∃ first rest, Nat.toDigits 10 number = first :: rest ∧ first ≠ '0' := by
  induction number using Nat.strongRecOn with
  | ind number ih =>
    rw [Nat.toDigits_eq_if (by decide)]
    split
    · refine ⟨_, [], rfl, ?_⟩
      rw [ne_eq, Nat.digitChar_eq_zero]
      omega
    · obtain ⟨first, rest, same, nonzero⟩ := ih (number / 10) (by omega) (by omega)
      exact ⟨first, rest ++ [(number % 10).digitChar], by rw [same]; rfl, nonzero⟩

theorem all_toDigits (number : Nat) : (Nat.toDigits 10 number).all Char.isDigit = true := by
  rw [List.all_eq_true]
  exact fun c member => Nat.isDigit_of_mem_toDigits (by decide) (by decide) member

theorem readNat?_digits {digits : List Char} (some : digits ≠ []) (all : digits.all Char.isDigit = true) :
    readNat? digits = .some (Nat.ofDigitChars 10 digits 0) := by
  simp [readNat?, some, all]

def startsWithoutDigit (text : List Char) : Bool := !text.head?.any Char.isDigit

theorem takeWhile_digits {digits rest : List Char} (all : digits.all Char.isDigit = true)
    (ends : startsWithoutDigit rest = true) : (digits ++ rest).takeWhile Char.isDigit = digits := by
  rw [List.takeWhile_append_of_pos (List.all_eq_true.mp all)]
  cases rest with
  | nil => simp
  | cons c rest =>
    have other : c.isDigit = false := by simpa [startsWithoutDigit] using ends
    simp [other]

theorem dropWhile_digits {digits rest : List Char} (all : digits.all Char.isDigit = true)
    (ends : startsWithoutDigit rest = true) : (digits ++ rest).dropWhile Char.isDigit = rest := by
  rw [List.dropWhile_append_of_pos (List.all_eq_true.mp all)]
  cases rest with
  | nil => simp
  | cons c rest =>
    have other : c.isDigit = false := by simpa [startsWithoutDigit] using ends
    simp [other]

end Text

namespace Json

/-- Digits as they stand before the point of a numeral. -/
structure IsWhole (digits : List Char) : Prop where
  some : digits ≠ []
  all : digits.all Char.isDigit = true
  head : digits = ['0'] ∨ digits.head? ≠ .some '0'

theorem isWhole_toDigits (number : Nat) : IsWhole (Nat.toDigits 10 number) := by
  refine ⟨Nat.toDigits_ne_nil, Text.all_toDigits number, ?_⟩
  rcases Nat.eq_zero_or_pos number with rfl | positive
  · exact .inl (Nat.toDigits_zero 10)
  · obtain ⟨first, rest, same, nonzero⟩ := Text.toDigits_head positive
    refine .inr ?_
    rw [same]
    simpa using nonzero

theorem splitWhole_append {whole rest : List Char} (good : IsWhole whole)
    (ends : Text.startsWithoutDigit rest = true) : splitWhole (whole ++ rest) = (whole, rest) := by
  rcases good.head with rfl | nonzero
  · rfl
  · unfold splitWhole
    split
    · rename_i same
      cases whole with
      | nil => exact absurd rfl good.some
      | cons first whole =>
        obtain ⟨rfl, _⟩ := List.cons.inj same
        exact absurd rfl nonzero
    · rw [Text.takeWhile_digits good.all ends, Text.dropWhile_digits good.all ends]

/-- Whether a text goes on with nothing that could belong to a numeral before it. -/
def endsNumeral (text : List Char) : Bool :=
  !text.head?.any fun c => c.isDigit || c = '.' || c = 'e' || c = 'E'

theorem endsNumeral_cons {c : Char} {rest : List Char} : endsNumeral (c :: rest) = true ↔
    c.isDigit = false ∧ c ≠ '.' ∧ c ≠ 'e' ∧ c ≠ 'E' := by
  simp [endsNumeral, and_assoc]

theorem splitFraction_none {rest : List Char} (ends : rest.head? ≠ some '.') :
    splitFraction rest = ([], rest) := by
  unfold splitFraction
  split
  · exact absurd rfl ends
  · rfl

theorem splitFraction_append {digits rest : List Char} (some : digits ≠ [])
    (all : digits.all Char.isDigit = true) (ends : Text.startsWithoutDigit rest = true) :
    splitFraction ('.' :: (digits ++ rest)) = (digits, rest) := by
  simp [splitFraction, Text.takeWhile_digits all ends, Text.dropWhile_digits all ends, some]

theorem splitExponent_none {rest : List Char} (ends : endsNumeral rest = true) :
    splitExponent rest = (none, rest) := by
  cases rest with
  | nil => rfl
  | cons c rest =>
    obtain ⟨_, _, lower, upper⟩ := endsNumeral_cons.mp ends
    simp [splitExponent, lower, upper]

theorem startsWithoutDigit_of_ends {rest : List Char} (ends : endsNumeral rest = true) :
    Text.startsWithoutDigit rest = true ∧ rest.head? ≠ some '.' := by
  cases rest with
  | nil => exact ⟨rfl, nofun⟩
  | cons c rest =>
    obtain ⟨digit, point, _⟩ := endsNumeral_cons.mp ends
    exact ⟨by simp [Text.startsWithoutDigit, digit], by simpa using point⟩

theorem readNumeral_int {number : Nat} (short : number < 10 ^ Text.maxDigits) (negative : Bool)
    {rest : List Char} (ends : endsNumeral rest = true) :
    readNumeral negative (Nat.toDigits 10 number ++ rest) =
      .ok (.int (Text.applySign negative number), rest) := by
  obtain ⟨digit, point⟩ := startsWithoutDigit_of_ends ends
  have length : (Nat.toDigits 10 number).length ≤ Text.maxDigits :=
    (Nat.length_toDigits_le_iff (by decide) (by decide)).mpr short
  have value : Text.readNat? (Nat.toDigits 10 number) = some number := by
    rw [Text.readNat?_digits Nat.toDigits_ne_nil (Text.all_toDigits number),
      Nat.ofDigitChars_ten_toDigits]
  simp only [readNumeral, splitWhole_append (isWhole_toDigits number) digit,
    splitFraction_none point, splitExponent_none ends, value]
  rw [if_neg (Nat.not_lt.mpr length)]
  rfl

theorem splitExponent_signed (value : Int) {rest : List Char}
    (ends : Text.startsWithoutDigit rest = true) :
    splitExponent ('e' :: (Decimal.signedExponent value ++ rest)) = (some value, rest) := by
  let zeros := Decimal.zeros (2 - (Nat.toDigits 10 value.natAbs).length)
  let digits := zeros ++ Nat.toDigits 10 value.natAbs
  have all : digits.all Char.isDigit = true := by
    rw [List.all_append, Text.all_toDigits, Bool.and_true]
    exact List.all_eq_true.mpr fun c member => by rw [List.eq_of_mem_replicate member]; rfl
  have some : digits ≠ [] := by simp [digits]
  have number : Nat.ofDigitChars 10 digits 0 = value.natAbs := by
    simp only [digits, zeros, Decimal.zeros, Nat.ofDigitChars_append,
      Nat.ofDigitChars_replicate_zero, Nat.mul_zero, Nat.ofDigitChars_ten_toDigits]
  have sign : Text.splitSign (Decimal.signedExponent value ++ rest) =
      (decide (value < 0), digits ++ rest) := by
    by_cases below : value < 0
    · simp [Decimal.signedExponent, below, Text.splitSign, digits, zeros]
    · simp [Decimal.signedExponent, below, Text.splitSign, digits, zeros]
  have applied : Text.applySign (decide (value < 0)) value.natAbs = value := by
    by_cases below : value < 0
    · simp only [Text.applySign, below, decide_true, if_true]
      omega
    · simp only [Text.applySign, below, decide_false, Bool.false_eq_true, if_false]
      omega
  simp only [splitExponent, sign, Text.takeWhile_digits all ends, Text.dropWhile_digits all ends,
    Text.readNat?_digits some all, number, applied, if_true, decide_true, Bool.true_or]

/-- A numeral with a point or an exponent is read as the decimal that its digits tell. -/
theorem readNumeral_real {whole fraction tail rest : List Char} {exponent : Option Int}
    (good : IsWhole whole) (all : fraction.all Char.isDigit = true) (negative : Bool)
    (ends : tail.head? ≠ some '.' ∧ Text.startsWithoutDigit tail = true)
    (powers : splitExponent tail = (exponent, rest)) (real : fraction ≠ [] ∨ exponent.isSome = true) :
    readNumeral negative (whole ++ ((if fraction = [] then [] else '.' :: fraction) ++ tail)) =
      .ok (.real (Double.ofDecimal negative (Nat.ofDigitChars 10 (whole ++ fraction) 0)
        (exponent.getD 0 - fraction.length)), rest) := by
  have fractions : splitFraction ((if fraction = [] then [] else '.' :: fraction) ++ tail) =
      (fraction, tail) := by
    split
    · rename_i none
      rw [none]
      exact splitFraction_none ends.1
    · rename_i some
      exact splitFraction_append some all ends.2
  have digit : Text.startsWithoutDigit ((if fraction = [] then [] else '.' :: fraction) ++ tail) =
      true := by
    split
    · exact ends.2
    · rfl
  have notWhole : ¬ (fraction.isEmpty && exponent.isNone) = true := by
    rcases real with some | some
    · simp [some]
    · cases exponent with
      | none => cases some
      | some power => simp
  simp only [readNumeral, splitWhole_append good digit, fractions, powers,
    Text.readNat?_digits good.some good.all]
  rw [if_neg notWhole, Nat.ofDigitChars_append]
  rfl

theorem readNumeral_point {whole fraction rest : List Char} (good : IsWhole whole)
    (some : fraction ≠ []) (all : fraction.all Char.isDigit = true) (negative : Bool)
    (ends : endsNumeral rest = true) :
    readNumeral negative (whole ++ '.' :: (fraction ++ rest)) =
      .ok (.real (Double.ofDecimal negative (Nat.ofDigitChars 10 (whole ++ fraction) 0)
        (-fraction.length)), rest) := by
  obtain ⟨digit, point⟩ := startsWithoutDigit_of_ends ends
  have read := readNumeral_real good all negative ⟨point, digit⟩ (splitExponent_none ends) (.inl some)
  rw [if_neg some] at read
  simpa using read

theorem all_zeros (count : Int) : (Decimal.zeros count).all Char.isDigit = true :=
  List.all_eq_true.mpr fun c member => by rw [List.eq_of_mem_replicate member]; rfl

theorem isWhole_take {number count : Nat} (positive : 0 < number) (some : 0 < count) :
    IsWhole ((Nat.toDigits 10 number).take count) := by
  obtain ⟨first, others, digits, nonzero⟩ := Text.toDigits_head positive
  obtain ⟨count, rfl⟩ := Nat.exists_eq_add_of_lt some
  have all := Text.all_toDigits number
  rw [digits] at all ⊢
  refine ⟨by simp, ?_, .inr (by simpa using nonzero)⟩
  rw [List.all_eq_true] at all ⊢
  exact fun c member => all c (List.mem_of_mem_take member)

section
variable {number : Nat} {exponent : Int} (negative : Bool) {rest : List Char}

theorem readNumeral_below (small : (Nat.toDigits 10 number).length + exponent ≤ 0)
    (ends : endsNumeral rest = true) :
    readNumeral negative ('0' :: '.' ::
      (Decimal.zeros (-((Nat.toDigits 10 number).length + exponent)) ++ Nat.toDigits 10 number) ++ rest) =
        .ok (.real (Double.ofDecimal negative number exponent), rest) := by
  let fraction := Decimal.zeros (-((Nat.toDigits 10 number).length + exponent)) ++
    Nat.toDigits 10 number
  have some : fraction ≠ [] := by simp [fraction]
  have all : fraction.all Char.isDigit = true := by
    simp only [fraction, List.all_append, all_zeros, Text.all_toDigits, Bool.and_true]
  have length : -(fraction.length : Int) = exponent := by
    simp only [fraction, Decimal.zeros, List.length_append, List.length_replicate]
    omega
  have digits : Nat.ofDigitChars 10 (['0'] ++ fraction) 0 = number := by
    simp only [fraction, Decimal.zeros, Nat.ofDigitChars_append, Nat.ofDigitChars_replicate_zero,
      Nat.ofDigitChars_cons, Nat.ofDigitChars_nil]
    simp
  have read := readNumeral_point (isWhole_toDigits 0) some all negative ends
  rw [Nat.toDigits_zero, digits, length] at read
  exact read

theorem readNumeral_among (positive : 0 < number) (large : 0 < (Nat.toDigits 10 number).length + exponent)
    (below : exponent < 0) (ends : endsNumeral rest = true) :
    readNumeral negative
      ((Nat.toDigits 10 number).take ((Nat.toDigits 10 number).length + exponent).toNat ++ '.' ::
        ((Nat.toDigits 10 number).drop ((Nat.toDigits 10 number).length + exponent).toNat ++ rest)) =
          .ok (.real (Double.ofDecimal negative number exponent), rest) := by
  generalize place : ((Nat.toDigits 10 number).length + exponent).toNat = count
  have good : IsWhole ((Nat.toDigits 10 number).take count) := isWhole_take positive (by omega)
  have some : (Nat.toDigits 10 number).drop count ≠ [] := by
    rw [ne_eq, List.drop_eq_nil_iff]
    omega
  have all : ((Nat.toDigits 10 number).drop count).all Char.isDigit = true := by
    have every := List.all_eq_true.mp (Text.all_toDigits number)
    exact List.all_eq_true.mpr fun c member => every c (List.mem_of_mem_drop member)
  have length : -(((Nat.toDigits 10 number).drop count).length : Int) = exponent := by
    rw [List.length_drop]
    omega
  rw [readNumeral_point good some all negative ends, List.take_append_drop,
    Nat.ofDigitChars_ten_toDigits, length]

theorem readNumeral_above (positive : 0 < number) (whole : 0 ≤ exponent)
    (ends : endsNumeral rest = true) :
    readNumeral negative (Nat.toDigits 10 number ++ Decimal.zeros exponent ++ '.' :: ('0' :: rest)) =
      .ok (.real (Double.ofDecimal negative number exponent), rest) := by
  obtain ⟨power, rfl⟩ := Int.eq_ofNat_of_zero_le whole
  obtain ⟨first, others, same, nonzero⟩ := Text.toDigits_head positive
  have good : IsWhole (Nat.toDigits 10 number ++ Decimal.zeros power) := by
    refine ⟨by simp, by rw [List.all_append, Text.all_toDigits, all_zeros, Bool.and_true], .inr ?_⟩
    rw [same]
    simpa using nonzero
  have digits : Nat.ofDigitChars 10 (Nat.toDigits 10 number ++ Decimal.zeros power ++ ['0']) 0 =
      number * 10 ^ (power + 1) := by
    simp only [Decimal.zeros, Nat.ofDigitChars_append, Nat.ofDigitChars_replicate_zero,
      Nat.ofDigitChars_ten_toDigits, Nat.ofDigitChars_cons, Nat.ofDigitChars_nil, Int.toNat_natCast]
    rw [Nat.pow_succ]
    simp only [Char.reduceToNat]
    ac_rfl
  have read := readNumeral_point good (List.cons_ne_nil '0' []) rfl negative ends
  have shift := Double.ofDecimal_shift negative number (power + 1) power
  have back : (power : Int) - (power + 1 : Nat) = -1 := by omega
  rw [back] at shift
  rw [digits, List.length_singleton] at read
  exact read.trans (congrArg (fun value => Except.ok (Value.real value, rest)) shift)

theorem readNumeral_scientific (exponent : Int) (positive : 0 < number) (ends : endsNumeral rest = true) :
    readNumeral negative ((Nat.toDigits 10 number).take 1 ++
      ((if (Nat.toDigits 10 number).length = 1 then [] else '.' :: (Nat.toDigits 10 number).drop 1) ++
        'e' :: (Decimal.signedExponent ((Nat.toDigits 10 number).length + exponent - 1) ++ rest))) =
          .ok (.real (Double.ofDecimal negative number exponent), rest) := by
  obtain ⟨digit, point⟩ := startsWithoutDigit_of_ends ends
  have good : IsWhole ((Nat.toDigits 10 number).take 1) := isWhole_take positive (by decide)
  have all : ((Nat.toDigits 10 number).drop 1).all Char.isDigit = true := by
    have every := List.all_eq_true.mp (Text.all_toDigits number)
    exact List.all_eq_true.mpr fun c member => every c (List.mem_of_mem_drop member)
  have single : (Nat.toDigits 10 number).length = 1 ↔ (Nat.toDigits 10 number).drop 1 = [] := by
    have some : 0 < (Nat.toDigits 10 number).length := Nat.length_toDigits_pos
    rw [List.drop_eq_nil_iff]
    omega
  have length : ((Nat.toDigits 10 number).length + exponent - 1) -
      (((Nat.toDigits 10 number).drop 1).length : Int) = exponent := by
    have some : 0 < (Nat.toDigits 10 number).length := Nat.length_toDigits_pos
    rw [List.length_drop]
    omega
  have read := readNumeral_real good all negative ⟨by simp, rfl⟩
    (splitExponent_signed ((Nat.toDigits 10 number).length + exponent - 1) digit) (.inr rfl)
  rw [List.take_append_drop, Nat.ofDigitChars_ten_toDigits, Option.getD_some, length] at read
  simpa only [single] using read

/-- However a decimal is written, it is read as the double that it stands for. -/
theorem readNumeral_decimal {decimal : Decimal} (positive : 0 < decimal.digits)
    (ends : endsNumeral rest = true) : readNumeral negative (decimal.text ++ rest) =
      .ok (.real (Double.ofDecimal negative decimal.digits decimal.exponent), rest) := by
  unfold Decimal.text
  dsimp only
  split
  · split
    · rename_i small
      exact readNumeral_below negative small ends
    · rename_i large
      by_cases below : decimal.exponent < 0
      · have none : Decimal.zeros decimal.exponent = [] := by
          rw [Decimal.zeros, Int.toNat_of_nonpos (by omega), List.replicate_zero]
        have read := readNumeral_among negative positive (by omega) below ends
        simpa [below, none] using read
      · have all : (Nat.toDigits 10 decimal.digits).take
            ((Nat.toDigits 10 decimal.digits).length + decimal.exponent).toNat =
              Nat.toDigits 10 decimal.digits := List.take_of_length_le (by omega)
        have read := readNumeral_above negative positive (Int.not_lt.mp below) ends
        simpa [below, all] using read
  · have read := readNumeral_scientific negative decimal.exponent positive ends
    simpa using read

end

end Json
end Gamebook
