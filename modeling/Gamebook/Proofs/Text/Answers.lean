import Gamebook.Proofs.Text.Plain
import Gamebook.Text.Numeral
import Mathlib.Data.List.DropRight

/-!
Lines as answers. Without the blanks around it a plain text stays plain.
-/
namespace Gamebook.Text

private theorem toNat_blank {c : Char} (blank : isBlank c = true) : c.toNat ≤ 0x3000 := by
  simp only [isBlank, Bool.or_eq_true, Bool.and_eq_true, decide_eq_true_eq, beq_iff_eq] at blank
  omega

private theorem blank_ne_mark {c : Char} (blank : isBlank c = true) : c ≠ mark := by
  rintro rfl
  have := toNat_blank blank
  have : mark.toNat = 0x10ffff := rfl
  omega

private theorem isSign_mark_blank {c : Char} (blank : isBlank c = true) : isSign [mark, c] = false := by
  have small := toNat_blank blank
  have shift : halfShift = 0xfd000 := rfl
  have none : c.toNat - halfShift = 0 := by omega
  simp [isSign, blank_ne_mark blank, none, isHalf]

private theorem isSpelled_cons {sign : List Char} {rest : List (List Char)} :
    isSpelled (sign :: rest) = true ↔
      isSign sign = true ∧ (isHigh sign = true → rest.head?.any isLow = false) ∧
        isSpelled rest = true := by
  rw [isSpelled]
  cases isHigh sign <;> simp [and_assoc]

/-- The low half at the start of a text stays there when something is added at its end. -/
private theorem startsLow_append {text : List Char} (c : Char)
    (low : (signs text).head?.any isLow = true) : (signs (text ++ [c])).head?.any isLow = true := by
  match text with
  | [] => cases low
  | [d] => cases low
  | d :: e :: rest =>
    rw [List.cons_append, List.cons_append, signs]
    rw [signs] at low
    split <;> simp_all

private theorem isSpelled_front {text : List Char} {c : Char} (blank : isBlank c = true)
    (spelled : isSpelled (signs (text ++ [c])) = true) : isSpelled (signs text) = true := by
  fun_induction signs text with
  | case1 => rfl
  | case2 d =>
    by_cases marked : d = mark
    · have pair : signs [d, c] = [[mark, c]] := by rw [signs, if_pos marked, marked, signs]
      rw [List.singleton_append, pair] at spelled
      have sign := (isSpelled_cons.mp spelled).1
      rw [isSign_mark_blank blank] at sign
      cases sign
    · simp [isSpelled, isSign, marked]
  | case3 d rest ih =>
    rw [List.cons_append, List.cons_append, signs, if_pos rfl] at spelled
    obtain ⟨sign, apart, others⟩ := isSpelled_cons.mp spelled
    refine isSpelled_cons.mpr ⟨sign, fun high => ?_, ih others⟩
    refine Bool.eq_false_iff.mpr fun low => ?_
    rw [startsLow_append c low] at apart
    cases apart high
  | case4 e d rest isChar ih =>
    rw [List.cons_append, signs_cons isChar] at spelled
    obtain ⟨sign, _, others⟩ := isSpelled_cons.mp spelled
    refine isSpelled_cons.mpr ⟨sign, fun high => ?_, ih others⟩
    cases high

private theorem isSpelled_dropWhile {text : List Char} (spelled : isSpelled (signs text) = true) :
    isSpelled (signs (text.dropWhile isBlank)) = true := by
  induction text with
  | nil => rfl
  | cons c text ih =>
    rw [List.dropWhile_cons]
    split
    · rename_i blank
      rw [signs_cons (blank_ne_mark blank)] at spelled
      exact ih (isSpelled_cons.mp spelled).2.2
    · exact spelled

private theorem isSpelled_rdropWhile {text : List Char} (spelled : isSpelled (signs text) = true) :
    isSpelled (signs (text.rdropWhile isBlank)) = true := by
  induction text using List.reverseRecOn with
  | nil => rfl
  | append_singleton text c ih =>
    rw [List.rdropWhile_concat]
    split
    · rename_i blank
      exact ih (isSpelled_front blank spelled)
    · exact spelled

theorem isPlain_trim {line : String} (plain : isPlain line = true) :
    isPlain (String.ofList (trim line.toList)) = true := by
  rw [isPlain, String.toList_ofList]
  exact isSpelled_rdropWhile (isSpelled_dropWhile plain)

end Gamebook.Text
