import Gamebook.Text.Spelling

/-!
Texts as documents hold them: spelled as they should be, and without the two halves of a surrogate
pair next to each other, which a reader would take for one character.
-/
namespace Gamebook.Text

/-- The codes of the halves of surrogate pairs. -/
def isHalf (code : Nat) : Bool := 0xd800 ≤ code && code < 0xe000

def isSign : List Char → Bool
  | [c] => c ≠ mark
  | [c, d] => c = mark && (d = mark || isHalf (d.toNat - halfShift))
  | _ => false

def isHigh (sign : List Char) : Bool := (half? sign).any (· < 0xdc00)

def isLow (sign : List Char) : Bool := (half? sign).any (0xdc00 ≤ ·)

def isSpelled : List (List Char) → Bool
  | [] => true
  | sign :: rest => isSign sign && !(isHigh sign && rest.head?.any isLow) && isSpelled rest

def isPlain (text : String) : Bool := isSpelled (signs text.toList)

theorem toNat_ofNat {code : Nat} (valid : code.isValidChar) : (Char.ofNat code).toNat = code := by
  rw [Char.ofNat, dif_pos valid]
  rfl

/-- The character that stands for a half is none that stands alone. -/
theorem toNat_half {code : Nat} (half : isHalf code = true) :
    (Char.ofNat (code + halfShift)).toNat = code + halfShift := by
  simp only [isHalf, Bool.and_eq_true, decide_eq_true_eq] at half
  refine toNat_ofNat (.inr ?_)
  have : halfShift = 0xfd000 := rfl
  omega

theorem half_ne_mark {code : Nat} (half : isHalf code = true) :
    Char.ofNat (code + halfShift) ≠ mark := by
  intro same
  have code_eq := toNat_half half
  rw [same] at code_eq
  have : mark.toNat = 0x10ffff := rfl
  have : halfShift = 0xfd000 := rfl
  simp only [isHalf, Bool.and_eq_true, decide_eq_true_eq] at half
  omega

theorem half?_spellHalf {code : Nat} (half : isHalf code = true) :
    half? (spellHalf code) = some code := by
  simp [spellHalf, half?, half_ne_mark half, toNat_half half]

/-- What a sign can be. -/
theorem isSign_iff {sign : List Char} : isSign sign = true ↔
    (∃ c, sign = [c] ∧ c ≠ mark) ∨ sign = [mark, mark] ∨
      ∃ code, isHalf code = true ∧ sign = spellHalf code := by
  constructor
  · intro good
    unfold isSign at good
    split at good
    · exact .inl ⟨_, rfl, by simpa using good⟩
    · rename_i c d
      simp only [Bool.and_eq_true, Bool.or_eq_true, decide_eq_true_eq] at good
      obtain ⟨rfl, rfl | half⟩ := good
      · exact .inr (.inl rfl)
      · refine .inr (.inr ⟨d.toNat - halfShift, half, ?_⟩)
        simp only [isHalf, Bool.and_eq_true, decide_eq_true_eq] at half
        have : d.toNat - halfShift + halfShift = d.toNat := by omega
        rw [spellHalf, this, Char.ofNat_toNat]
    · cases good
  · rintro (⟨c, rfl, apart⟩ | rfl | ⟨code, half, rfl⟩)
    · simpa [isSign] using apart
    · rfl
    · simp [isSign, spellHalf, toNat_half half, half]

theorem signs_chars {text : List Char} (apart : mark ∉ text) : signs text = text.map ([·]) := by
  fun_induction signs text with
  | case1 => rfl
  | case2 c => rfl
  | case3 d rest ih => exact absurd (.head _) apart
  | case4 c d rest isChar ih =>
    rw [ih fun inside => apart (.tail _ inside)]
    rfl

theorem chars?_ofList {text : List Char} (apart : mark ∉ text) :
    chars? (String.ofList text) = some text := by
  rw [chars?, chars, String.toList_ofList, signs_chars apart, if_pos, List.map_map]
  · exact congrArg some (List.map_id _)
  · simp [half?]

theorem signs_cons {c : Char} (apart : c ≠ mark) (text : List Char) :
    signs (c :: text) = [c] :: signs text := by
  cases text with
  | nil => rfl
  | cons d text => rw [signs, if_neg apart]

/-- Behind a character that is not the mark, signs do not depend on what comes before. -/
theorem signs_append {c : Char} (apart : c ≠ mark) {rest : List Char} (unmarked : mark ∉ rest)
    (text : List Char) : signs (text ++ c :: rest) = signs (text ++ [c]) ++ rest.map ([·]) := by
  fun_induction signs text with
  | case1 => rw [List.nil_append, signs_cons apart, signs_chars unmarked]; rfl
  | case2 d =>
    by_cases marked : d = mark
    · simp [signs, marked, signs_chars unmarked]
    · simp [signs_cons marked, signs_cons apart, signs_chars unmarked, signs]
  | case3 d text ih => simpa [signs] using ih
  | case4 d e text isChar ih =>
    simp only [List.cons_append, signs_cons isChar] at ih ⊢
    rw [ih]

theorem isPlain_of_chars {text : String} (apart : mark ∉ text.toList) : isPlain text = true := by
  rw [isPlain, signs_chars apart]
  generalize text.toList = chars at apart
  induction chars with
  | nil => rfl
  | cons c chars ih =>
    have other : c ≠ mark := fun same => apart (same ▸ .head _)
    have others := ih fun inside => apart (.tail _ inside)
    simp [isSpelled, isSign, isHigh, half?, other, others]

end Gamebook.Text
