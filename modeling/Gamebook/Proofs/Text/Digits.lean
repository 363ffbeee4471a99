import Gamebook.Text.Numeral

/-!
Runs of digits: numbers padded with zeros, and reading back the digits of a number.
-/
namespace Gamebook.Text

/-- The digits of a number with zeros in front, as many as make up a width. -/
def paddedIn (base width number : Nat) : List Char :=
  List.replicate (width - (Nat.toDigits base number).length) '0' ++ Nat.toDigits base number

theorem paddedIn_one {base number : Nat} (bound : number < base) :
    paddedIn base 1 number = [number.digitChar] := by
  simp [paddedIn, Nat.toDigits_of_lt_base bound]

theorem paddedIn_succ {base : Nat} (large : 1 < base) (width number : Nat) :
    paddedIn base (width + 2) number =
      paddedIn base (width + 1) (number / base) ++ [(number % base).digitChar] := by
  unfold paddedIn
  rw [Nat.toDigits_eq_if large]
  split
  · rename_i small
    rw [Nat.div_eq_of_lt small, Nat.mod_eq_of_lt small, Nat.toDigits_zero]
    simp [List.replicate_succ']
  · simp

end Gamebook.Text
