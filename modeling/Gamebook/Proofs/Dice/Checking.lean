import Gamebook.Proofs.Dice.Rolling
import Gamebook.Proofs.Number.Halving

/-!
Checks of stats that are whole numbers. Half of what such a stat is above ten is rounded to a double
before it is rounded down: the modifier is the one that is due only where that does no harm.
-/
namespace Gamebook

namespace Number
open Double (one roundHalfEven grain endlessHalf)

private theorem withSign_natAbs (whole : Int) (half : Nat) :
    Double.withSign (decide (whole < 0)) (whole.natAbs * half) = whole * half := by
  unfold Double.withSign
  rw [Int.natCast_mul]
  rcases Int.lt_or_le whole 0 with negative | positive
  · rw [if_pos (decide_eq_true negative), Int.ofNat_natAbs_of_nonpos (Int.le_of_lt negative),
      Int.neg_mul, Int.neg_neg]
  · rw [if_neg (by simpa using positive), Int.natAbs_of_nonneg positive]

theorem div_two_small {whole : Int} (small : whole.natAbs < 2 ^ 53) :
    ∃ half, (int whole).div (.int 2) = .ok (.real half) ∧ half.floor? = some (whole / 2) := by
  obtain ⟨half, unit, fits, near⟩ := Double.nearest_small small
  refine ⟨.finite (decide (whole < 0)) _ fits, ?_, ?_⟩
  · have two : (2 : Int).natAbs = 2 := rfl
    rw [div, two, Double.ofRatio, near, Double.ofUnits, dif_pos fits]
    cases decide (whole < 0) <;> rfl
  · have positive : (0 : Int) < half := by
      have := Double.one_pos
      omega
    have units : (one : Int) = 2 * half := by omega
    rw [Double.floor?, Double.signed?, Option.map_some, withSign_natAbs, units,
      Int.mul_ediv_mul_of_pos_left _ _ positive]

/-- Half of a large number is rounded, and infinite if it is too large. -/
theorem div_two_large {whole : Nat} (large : 2 ^ 53 ≤ whole) :
    (whole < endlessHalf → ∃ half, (int whole).div (.int 2) = .ok (.real half) ∧
      half.floor? = some ((roundHalfEven whole (2 * grain whole) * grain whole : Nat) : Int)) ∧
    (endlessHalf ≤ whole → (int whole).div (.int 2) = .error .tooLarge) := by
  have positive : decide ((whole : Int) < 0) = false := by
    rw [decide_eq_false_iff_not]
    omega
  have two : (2 : Int).natAbs = 2 := rfl
  have rounded : (int whole).div (.int 2) = ofRounded (.ofUnits false
      (roundHalfEven whole (2 * grain whole) * grain whole * one)) := by
    rw [div, positive, two, Int.natAbs_natCast, Double.ofRatio, Double.nearest_half large]
    rfl
  rw [rounded, Double.ofUnits]
  constructor
  · intro finite
    rw [dif_pos ((Double.fits_nearest_half_iff large).mpr finite)]
    refine ⟨_, rfl, ?_⟩
    rw [Double.floor?, Double.signed?, Option.map_some, Double.withSign, if_neg Bool.false_ne_true,
      Int.natCast_mul _ one, Int.mul_ediv_cancel _ (by have := Double.one_pos; omega)]
  · intro endless
    rw [dif_neg (mt (Double.fits_nearest_half_iff large).mp (Nat.not_lt.mpr endless))]
    rfl

end Number

theorem statModifier_int {stat : Int} (positive : 1 ≤ stat) : statModifier (.int stat) =
    if stat - 10 < Double.endlessHalf then .ok (Double.roundedHalf (stat - 10))
    else .error .tooLarge := by
  by_cases small : stat - 10 < 2 ^ 53
  · have finite := Double.small_lt_endlessHalf
    obtain ⟨half, halved, floor⟩ :=
      Number.div_two_small (show (stat - 10).natAbs < 2 ^ 53 by omega)
    rw [if_pos (by omega), Double.roundedHalf, if_pos small]
    exact statModifier_of_half rfl rfl halved floor
  · obtain ⟨whole, same⟩ := Int.eq_ofNat_of_zero_le (show 0 ≤ stat - 10 by omega)
    obtain ⟨halves, fails⟩ := Number.div_two_large (show 2 ^ 53 ≤ whole by omega)
    rw [← same] at halves fails
    by_cases finite : whole < Double.endlessHalf
    · obtain ⟨half, halved, floor⟩ := halves finite
      rw [if_pos (by omega), Double.roundedHalf, if_neg small, same, Int.toNat_natCast]
      exact statModifier_of_half rfl rfl halved floor
    · rw [if_neg (by omega)]
      exact statModifier_of_fault rfl rfl (fails (Nat.le_of_not_lt finite))

/-- Numbers of fewer digits add up to one that is no longer than one digit more. -/
private theorem add_lt_pow {first second few many : Nat} (less : few < many)
    (small : first < 10 ^ few) (other : second < 10 ^ few) : first + second < 10 ^ many := by
  have next : 10 ^ few * 10 ≤ 10 ^ many := by
    rw [← Nat.pow_succ]
    exact Nat.pow_le_pow_right (by decide) less
  omega

private theorem lt_ten_pow {number few many : Nat} (small : number < 2 ^ few) (less : few ≤ many) :
    number < 10 ^ many :=
  calc number < 2 ^ few := small
    _ ≤ 10 ^ few := Nat.pow_le_pow_left (by decide) few
    _ ≤ 10 ^ many := Nat.pow_le_pow_right (by decide) less

/-- The modifier of a check can be written, if its base is not too long. -/
theorem isWritable_modified {base : String} {formula : DiceFormula} {stat : Int}
    (positive : 1 ≤ stat) (finite : stat - 10 < Double.endlessHalf)
    (read : DiceFormula.ofText base = .ok formula)
    (few : (base.toList.filter Text.isDecimal).length ≤ 4000) :
    (Number.int (formula.modifier + Double.roundedHalf (stat - 10))).isWritable = true := by
  have digits := DiceFormula.natAbs_modifier_lt read few
  have small := Double.natAbs_roundedHalf_lt (show -2 ^ 53 < stat - 10 by omega) finite
  have half := lt_ten_pow small (show 1024 ≤ 4000 by decide)
  rw [Number.isWritable_int]
  exact Nat.lt_of_le_of_lt (Int.natAbs_add_le _ _) (add_lt_pow (by decide) digits half)

namespace Generator
variable {σ : Type} {generator : Generator σ} {dice : σ}

theorem rollParsed_returns (returns : generator.Returns dice) (formula : DiceFormula)
    (written : String) (difficulty : Option Int) : ∃ roll after,
      generator.rollParsed formula written (.ofDifficulty difficulty) dice = .ok roll after ∧
      roll.modifier = formula.modifier := by
  obtain ⟨after, _, ⟨faces, drawn, _⟩ | ⟨_, _, ⟨⟩⟩⟩ :=
    drawMany_endsAs formula.one_le_sides formula.count dice returns
  obtain ⟨roll, made, shown⟩ : ∃ roll,
      RollResult.ofFaces formula written (.ofDifficulty difficulty) faces = .ok roll ∧
        roll.modifier = formula.modifier :=
    ⟨_, RollResult.ofFaces_eq_ok.mpr ⟨_, formula.verdict_ofDifficulty difficulty, rfl⟩, rfl⟩
  exact ⟨roll, after, rollParsed_eq_ok.mpr ⟨faces, drawn, made⟩, shown⟩

variable {stat : Int} {base : String} {formula : DiceFormula}

theorem check_of_fault {fault : Fault} (failed : statModifier (.int stat) = .error fault)
    (read : DiceFormula.ofText base = .ok formula) (difficulty : Value) :
    generator.check (.int stat) difficulty (.text base) dice = .error (.fault fault) dice := by
  have read : DiceFormula.ofValue (.text base) = .ok formula := read
  have refused : checkFormula (.text base) (.int stat) = .error (.fault fault) := by
    refine bind_eq_error.mpr (.inr ⟨formula, read, bind_eq_error.mpr (.inl ?_)⟩)
    exact Fault.lift_eq_error.mpr ⟨fault, failed, rfl⟩
  exact draw_bind_eq_error.mpr (.inl (draw_lift_eq_error.mpr ⟨refused, rfl⟩))

theorem check_returns {added : Int} (modified : statModifier (.int stat) = .ok added)
    (read : DiceFormula.ofText base = .ok formula)
    (writable : (Number.int (formula.modifier + added)).isWritable = true)
    (returns : generator.Returns dice) (difficulty : Option Int) : ∃ roll after,
      generator.check (.int stat) (.ofDifficulty difficulty) (.text base) dice = .ok roll after ∧
      roll.modifier = formula.modifier + added := by
  have made : checkFormula (.text base) (.int stat) = .ok _ :=
    checkFormula_eq_ok.mpr ⟨formula, added, read, modified, writable, rfl⟩
  obtain ⟨roll, after, rolled, shown⟩ := rollParsed_returns returns
    (formula.withModifier (formula.modifier + added)) _ difficulty
  exact ⟨roll, after, draw_bind_eq_ok.mpr ⟨_, dice, draw_lift_eq_ok.mpr ⟨made, rfl⟩, rolled⟩, shown⟩

/-- What a check adds for a stat that is a whole number, by any generator that always answers: half
of what the stat is above ten, rounded to a double before it is rounded down. It is what is due
exactly if that half comes out right, and from the first half that is not finite on nothing is
rolled. -/
theorem check_modifier (positive : 1 ≤ stat) (read : DiceFormula.ofText base = .ok formula)
    (few : (base.toList.filter Text.isDecimal).length ≤ 4000) (returns : generator.Returns dice)
    (difficulty : Option Int) :
    (stat - 10 < Double.endlessHalf → ∃ roll after,
      generator.check (.int stat) (.ofDifficulty difficulty) (.text base) dice = .ok roll after ∧
      roll.modifier = formula.modifier + Double.roundedHalf (stat - 10)) ∧
    (Double.endlessHalf ≤ stat - 10 →
      generator.check (.int stat) (.ofDifficulty difficulty) (.text base) dice =
        .error (.fault .tooLarge) dice) ∧
    ((∃ roll after,
      generator.check (.int stat) (.ofDifficulty difficulty) (.text base) dice = .ok roll after ∧
      roll.modifier = formula.modifier + (stat - 10) / 2) ↔ Double.HalvesExactly (stat - 10)) := by
  have modifier := statModifier_int positive
  rw [Double.halvesExactly_iff]
  by_cases finite : stat - 10 < Double.endlessHalf
  · rw [if_pos finite] at modifier
    obtain ⟨roll, after, rolled, added⟩ := check_returns modifier read
      (isWritable_modified positive finite read few) returns difficulty
    refine ⟨fun _ => ⟨roll, after, rolled, added⟩, fun endless => absurd finite (by omega), ?_⟩
    constructor
    · rintro ⟨other, _, again, due⟩
      obtain ⟨⟩ := rolled.symm.trans again
      exact ⟨finite, by omega⟩
    · rintro ⟨_, right⟩
      exact ⟨roll, after, rolled, by rw [added, right]⟩
  · rw [if_neg finite] at modifier
    have failed : generator.check (.int stat) (.ofDifficulty difficulty) (.text base) dice =
        .error (.fault .tooLarge) dice := check_of_fault modifier read _
    refine ⟨fun less => absurd less finite, fun _ => failed, ?_⟩
    constructor
    · rintro ⟨_, _, again, _⟩
      rw [failed] at again
      cases again
    · rintro ⟨less, _⟩
      exact absurd less finite

/-- A giant's stat of 9007199254741005, which is `2 ^ 53 + 13`: one more is added than is due. -/
theorem check_modifier_giant : ∃ roll after,
    RandomSource.generator.check (.int 9007199254741005) (.int 10) (.text "1d20")
      (.ofSeed (.number 42)) = .ok roll after ∧ roll.modifier = 4503599627370498 ∧
    (9007199254741005 - 10) / 2 = (4503599627370497 : Int) := by
  have read : DiceFormula.ofText "1d20" = .ok ⟨1, 20, 0, by decide, by decide⟩ := rfl
  have finite : (9007199254741005 - 10 : Int) < Double.endlessHalf := by decide +kernel
  have rounded : Double.roundedHalf (9007199254741005 - 10) = 4503599627370498 := by decide +kernel
  obtain ⟨roll, after, rolled, added⟩ := (check_modifier (by decide) read (by decide)
    (RandomSource.returns_ofSeed (.number 42)) (some 10)).1 finite
  exact ⟨roll, after, rolled, by rw [added, rounded]; rfl, by decide⟩

end Generator
end Gamebook
