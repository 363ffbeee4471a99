import Gamebook.Proofs.Dice.Reading
import Gamebook.Proofs.Json.Scalars

/-!
Formulas as they are written. What can be read can be written, and what is written is read as the
formula that it was written for.
-/
namespace Gamebook

namespace DiceFormula

/-- No number of the formula has too many digits. -/
structure IsWritable (formula : DiceFormula) : Prop where
  count : formula.count < 10 ^ Text.maxDigits
  sides : formula.sides < 10 ^ Text.maxDigits
  modifier : formula.modifier.natAbs < 10 ^ Text.maxDigits

def additionOf (modifier : Int) : List Char :=
  if modifier = 0 then []
  else (if modifier < 0 then '-' else '+') :: Nat.toDigits 10 modifier.natAbs

variable {formula : DiceFormula} {modifier : Int}

theorem toList_renderModifier : (renderModifier modifier).toList = additionOf modifier := by
  unfold renderModifier additionOf
  rcases Int.lt_trichotomy modifier 0 with negative | rfl | positive
  · have notPositive : ¬0 < modifier := by omega
    rw [if_neg notPositive, if_pos negative, if_neg (Int.ne_of_lt negative), if_pos negative,
      Json.toList_int, if_pos (decide_eq_true negative)]
    rfl
  · rfl
  · have notNegative : ¬modifier < 0 := by omega
    rw [if_pos positive, if_neg (Int.ne_of_gt positive), if_neg notNegative, String.toList_append,
      Json.toList_int, if_neg (by simpa using notNegative)]
    rfl

theorem isAddition_additionOf : IsAddition (additionOf modifier) := by
  unfold additionOf
  split
  · exact .nothing
  · refine .signed ?_ (Text.isNumeral_toDigits _)
    split
    · exact .inr rfl
    · exact .inl rfl

theorem addedBy_additionOf : addedBy (additionOf modifier) = modifier := by
  unfold additionOf
  split
  · rename_i none
    rw [none]
    rfl
  · rw [addedBy, Text.numberOf_toDigits]
    rcases Int.lt_or_le modifier 0 with negative | positive
    · rw [if_pos negative, Text.applySign, if_pos (decide_eq_true rfl),
        Int.ofNat_natAbs_of_nonpos (Int.le_of_lt negative), Int.neg_neg]
    · rw [if_neg (Int.not_lt.mpr positive), Text.applySign, if_neg (by decide),
        Int.natAbs_of_nonneg positive]

theorem notBlank_of_isDigit {c : Char} (digit : c.isDigit = true) : Text.isBlank c = false := by
  have bounds := Text.toNat_of_isDigit digit
  simp [Text.isBlank]
  omega

theorem notBlank_toDigits (number : Nat) : ∀ c ∈ Nat.toDigits 10 number, Text.isBlank c = false :=
  fun _ member =>
    notBlank_of_isDigit (Nat.isDigit_of_mem_toDigits (by decide) (by decide) member)

theorem notBlank_additionOf : ∀ c ∈ additionOf modifier, Text.isBlank c = false := by
  unfold additionOf
  split
  · exact List.forall_mem_nil _
  · refine List.forall_mem_cons.mpr ⟨?_, notBlank_toDigits _⟩
    split <;> decide

theorem toList_render (formula : DiceFormula) : formula.render.toList =
    Nat.toDigits 10 formula.count ++
      'd' :: (Nat.toDigits 10 formula.sides ++ additionOf formula.modifier) := by
  simp [render, toList_renderModifier, String.toList_append]

theorem unblanked_render (formula : DiceFormula) :
    unblanked formula.render = formula.render.toList := by
  have each : ∀ c ∈ formula.render.toList, Text.isBlank c = false := by
    rw [toList_render]
    refine List.forall_mem_append.mpr ⟨notBlank_toDigits _, List.forall_mem_cons.mpr ⟨by decide, ?_⟩⟩
    exact List.forall_mem_append.mpr ⟨notBlank_toDigits _, notBlank_additionOf⟩
  refine List.filter_eq_self.mpr fun c member => ?_
  rw [each c member]
  rfl

theorem spells_render (formula : DiceFormula) : Spells (unblanked formula.render)
    (Nat.toDigits 10 formula.count) (Nat.toDigits 10 formula.sides)
    (additionOf formula.modifier) := by
  rw [unblanked_render, toList_render]
  exact .intro (Text.isNumeral_toDigits _) (.inl rfl) (Text.isNumeral_toDigits _)
    isAddition_additionOf

theorem length_toDigits_le {number : Nat} (short : number < 10 ^ Text.maxDigits) :
    ¬Text.maxDigits < (Nat.toDigits 10 number).length :=
  Nat.not_lt.mpr ((Nat.length_toDigits_le_iff (by decide) (by decide)).mpr short)

theorem IsWritable.short (writable : formula.IsWritable) :
    ¬IsOverlong (Nat.toDigits 10 formula.count) (Nat.toDigits 10 formula.sides)
      (additionOf formula.modifier) := by
  rintro (long | long | long)
  · exact length_toDigits_le writable.count long
  · exact length_toDigits_le writable.sides long
  · unfold additionOf at long
    split at long
    · cases long
    · exact length_toDigits_le writable.modifier long

/-- A formula that can be written is read again as what it was. -/
theorem ofText_render (writable : formula.IsWritable) : ofText formula.render = .ok formula := by
  refine ofText_eq_ok.mpr ⟨_, _, _, spells_render formula, writable.short, ?_⟩
  simp only [Text.numberOf_toDigits, addedBy_additionOf, and_self]

theorem IsAddition.natAbs_lt {addition : List Char} (added : IsAddition addition) :
    (addedBy addition).natAbs < 10 ^ addition.tail.length := by
  cases added with
  | nothing => decide
  | signed signed numeral =>
    have few := numeral.numberOf_lt
    rw [addedBy, List.tail_cons, Text.applySign]
    split <;> omega

/-- What is added has no more digits than the text that it is read from. -/
theorem Spells.length_le {text : String} {count sides addition : List Char}
    (spells : Spells (unblanked text) count sides addition) :
    addition.tail.length ≤ (text.toList.filter Text.isDecimal).length := by
  have decimal : addition.tail.filter Text.isDecimal = addition.tail := by
    refine List.filter_eq_self.mpr ?_
    cases spells.numerals.2.2 with
    | nothing => exact List.forall_mem_nil _
    | signed _ numeral => exact numeral.decimal
  have inside : List.Sublist addition (unblanked text) := by
    generalize unblanked text = bare at spells
    cases spells with
    | intro => exact ((List.sublist_append_right _ _).cons _).trans (List.sublist_append_right _ _)
  rw [← decimal]
  exact (((List.tail_sublist _).trans (inside.trans List.filter_sublist)).filter _).length_le

theorem lt_pow_maxDigits {number digits : Nat} (few : number < 10 ^ digits)
    (most : digits ≤ Text.maxDigits) : number < 10 ^ Text.maxDigits :=
  Nat.lt_of_lt_of_le few (Nat.pow_le_pow_right (by decide) most)

theorem IsWritable.of_ofText {text : String} (read : ofText text = .ok formula) :
    formula.IsWritable := by
  obtain ⟨count, sides, addition, spells, short, counted, sided, modified⟩ := ofText_eq_ok.mp read
  obtain ⟨numeral, others, added⟩ := spells.numerals
  simp only [IsOverlong, not_or, Nat.not_lt] at short
  refine ⟨?_, ?_, ?_⟩
  · rw [counted]
    exact lt_pow_maxDigits numeral.numberOf_lt short.1
  · rw [sided]
    exact lt_pow_maxDigits others.numberOf_lt short.2.1
  · rw [modified]
    exact lt_pow_maxDigits added.natAbs_lt short.2.2

/-- The modifier of a formula has no more digits than the text that it is read from. -/
theorem natAbs_modifier_lt {text : String} {digits : Nat} (read : ofText text = .ok formula)
    (few : (text.toList.filter Text.isDecimal).length ≤ digits) :
    formula.modifier.natAbs < 10 ^ digits := by
  obtain ⟨count, sides, addition, spells, _, _, _, modified⟩ := ofText_eq_ok.mp read
  rw [modified]
  refine Nat.lt_of_lt_of_le spells.numerals.2.2.natAbs_lt ?_
  exact Nat.pow_le_pow_right (by decide) (Nat.le_trans spells.length_le few)

theorem IsWritable.of_ofValue {value : Value} (read : ofValue value = .ok formula) :
    formula.IsWritable := by
  cases value with
  | text text => exact .of_ofText read
  | _ => exact absurd read Failure.showing_ne_ok

end DiceFormula

end Gamebook
