import Gamebook.Proofs.Number.Decimal
import Gamebook.Proofs.Number.Rounding
import Gamebook.Proofs.Value.Number

/-!
Modifiers of stats. Every stat that validation accepts has one, however large it is: halving what it
is above ten never leaves the doubles.
-/
namespace Gamebook

namespace Double

private theorem ofInt?_small {number : Nat} (few : number ≤ 2 ^ 53) :
    ofInt? number = some (.finite false (number * one) (whole_fits few)) := by
  have positive : decide ((number : Int) < 0) = false := by
    simp only [decide_eq_false_iff_not]
    omega
  rw [ofInt?, positive, Int.natAbs_natCast, ofRatio, nearest_of_fits (whole_fits few), ofUnits,
    dif_pos (whole_fits few)]
  rfl

/-- The difference of two doubles that are not negative has no larger magnitude than they have. -/
private theorem sub_finite {units others : Nat} (fits : Fits units) (fitsOthers : Fits others) :
    ((finite false units fits).sub (.finite false others fitsOthers)).isFinite = true := by
  unfold Double.sub Double.neg Double.add
  dsimp only
  split
  · rw [ofUnits, dif_pos zero_fits]
    rfl
  · have bound : (withSign false units + withSign (!false) others).natAbs ≤ max units others * 1 := by
      have first : withSign false units = units := rfl
      have second : withSign (!false) others = -others := rfl
      omega
    have most : Fits (max units others) := by
      rcases Nat.le_total units others with less | more
      · rwa [Nat.max_eq_right less]
      · rwa [Nat.max_eq_left more]
    exact ofRatio_finite _ Nat.one_pos most bound

private theorem half_finite {x : Double} (finite : x.isFinite = true) (two : Fits (2 * one)) :
    (x.div (.finite false (2 * one) two)).isFinite = true := by
  cases x with
  | nan mark => cases finite
  | infinite negative => cases finite
  | finite negative units fits =>
    have positive : 0 < 2 * one := Nat.mul_pos Nat.two_pos one_pos
    have bound : units * one ≤ units * (2 * one) :=
      Nat.mul_le_mul_left _ (Nat.le_mul_of_pos_left _ Nat.two_pos)
    unfold Double.div
    dsimp only
    rw [if_neg (Nat.ne_of_gt positive)]
    exact ofRatio_finite _ positive fits bound

private theorem floor?_of_finite {x : Double} (finite : x.isFinite = true) :
    ∃ whole, x.floor? = some whole := by
  cases x with
  | nan mark => cases finite
  | infinite negative => cases finite
  | finite negative units fits => exact ⟨_, rfl⟩

end Double

namespace Number
open Double (one)

private theorem ofRounded_of_finite {x : Double} (finite : x.isFinite = true) :
    ofRounded x = .ok (.real x) := by
  cases x with
  | infinite negative => cases finite
  | _ => rfl

private theorem div_finite {whole : Int} (large : 1 ≤ whole)
    (held : (Double.ofInt? whole).isSome = true) :
    ∃ half, (int (whole - 10)).div (.int 2) = .ok (.real half) ∧ half.isFinite = true := by
  have fits : Fits (Double.nearest (whole.natAbs * one) 1) := by
    unfold Double.ofInt? Double.ofRatio Double.ofUnits at held
    split at held
    · assumption
    · cases held
  have near : whole.natAbs * one < 2 * Double.nearest (whole.natAbs * one) 1 :=
    Double.lt_twice_nearest (Nat.mul_pos (by omega) Double.one_pos)
  obtain ⟨most, mostFits, bound⟩ : ∃ most, Fits most ∧ (whole - 10).natAbs * one ≤ most * 2 := by
    by_cases small : whole < 10
    · refine ⟨9 * one, Double.whole_fits (by decide), ?_⟩
      have few : (whole - 10).natAbs * one ≤ 9 * one := Nat.mul_le_mul_right _ (by omega)
      omega
    · refine ⟨_, fits, ?_⟩
      have less : (whole - 10).natAbs * one ≤ whole.natAbs * one := Nat.mul_le_mul_right _ (by omega)
      omega
  have two : (2 : Int).natAbs = 2 := rfl
  have finite : (Double.ofRatio (decide (whole - 10 < 0) != decide ((2 : Int) < 0))
      ((whole - 10).natAbs * one) (2 : Int).natAbs).isFinite = true := by
    rw [two]
    exact Double.ofRatio_finite _ Nat.two_pos mostFits bound
  refine ⟨_, ?_, finite⟩
  rw [div]
  exact ofRounded_of_finite finite

private theorem toDouble_small {number : Nat} (few : number ≤ 2 ^ 53) :
    (int number).toDouble = .ok (.finite false (number * one) (Double.whole_fits few)) := by
  rw [toDouble, Double.ofInt?_small few]
  rfl

private theorem sub_real (x : Double) {other : Number} {y : Double} (rounded : other.toDouble = .ok y) :
    (real x).sub other = .ok (.real (x.sub y)) := by
  cases other <;> exact bind_eq_ok.mpr ⟨x, rfl, bind_eq_ok.mpr ⟨y, rounded, rfl⟩⟩

private theorem div_real (x : Double) {other : Number} {y : Double} (rounded : other.toDouble = .ok y) :
    (real x).div other = .ok (.real (x.div y)) := by
  cases other <;> exact bind_eq_ok.mpr ⟨x, rfl, bind_eq_ok.mpr ⟨y, rounded, rfl⟩⟩

private theorem le_of_ordered {a b : Int}
    (ordered : some (compare a b) = some .lt ∨ some (compare a b) = some .eq) : a ≤ b := by
  rcases Int.lt_or_le b a with more | fine
  · have other : compare a b = .gt := by
      simp [compare, compareOfLessAndEq, Int.not_lt.mpr (Int.le_of_lt more), Int.ne_of_gt more]
    simp [other] at ordered
  · exact fine

private theorem halved_finite {number : Number} (settled : number.Settled)
    (least : (int 1).le number = true) (sized : number.toValue.Sized) :
    ∃ above half, number.sub (.int 10) = .ok above ∧ above.div (.int 2) = .ok (.real half) ∧
      half.isFinite = true := by
  cases number with
  | int whole =>
    obtain ⟨half, halved, finite⟩ := div_finite (le_int.mp least) (sized whole rfl)
    exact ⟨.int (whole - 10), half, rfl, halved, finite⟩
  | real x =>
    cases x with
    | nan mark => cases settled
    | infinite negative => cases settled
    | finite negative units fits =>
      simp only [le, lt, eq, compare?, Bool.or_eq_true,
        Double.compareInt?] at least
      have large := le_of_ordered (least.imp of_decide_eq_true of_decide_eq_true)
      have positive := Double.one_pos
      have ten : 10 ≤ 2 ^ 53 := by decide
      have two : 2 ≤ 2 ^ 53 := by decide
      cases negative with
      | true =>
        exfalso
        have sign : Double.withSign true units = -units := rfl
        omega
      | false =>
        have above := Double.sub_finite fits (Double.whole_fits ten)
        have halved := Double.half_finite above (Double.whole_fits two)
        have reduced := sub_real (Double.finite false units fits) (toDouble_small ten)
        exact ⟨_, _, reduced, div_real _ (toDouble_small two), halved⟩

end Number

section
variable {stat : Value} {number above : Number}

theorem statModifier_of_half {half : Double} {modifier : Int} (counted : stat.countable? = some number)
    (reduced : number.sub (.int 10) = .ok above) (halved : above.div (.int 2) = .ok (.real half))
    (floor : half.floor? = some modifier) : statModifier stat = .ok modifier := by
  unfold statModifier
  rw [counted]
  refine bind_eq_ok.mpr ⟨above, reduced, bind_eq_ok.mpr ⟨_, halved, ?_⟩⟩
  simp only [floor]
  rfl

theorem statModifier_of_fault {fault : Fault} (counted : stat.countable? = some number)
    (reduced : number.sub (.int 10) = .ok above) (failed : above.div (.int 2) = .error fault) :
    statModifier stat = .error fault := by
  unfold statModifier
  rw [counted]
  exact bind_eq_error.mpr (.inr ⟨above, reduced, bind_eq_error.mpr (.inl failed)⟩)

end

/-- Every stat that is at least one has a modifier. -/
theorem statModifier_eq_ok {value : Value} (reaches : value.Reaches 1) (sized : value.Sized) :
    ∃ modifier, statModifier value = .ok modifier := by
  obtain ⟨number, rfl, settled, least⟩ := reaches
  obtain ⟨above, half, reduced, halved, finite⟩ := Number.halved_finite settled least sized
  obtain ⟨modifier, rounded⟩ := Double.floor?_of_finite finite
  have counted : number.toValue.countable? = some number := by cases number <;> rfl
  exact ⟨modifier, statModifier_of_half counted reduced halved rounded⟩

theorem Number.isWritable_int {value : Int} :
    (int value).isWritable = true ↔ value.natAbs < 10 ^ Text.maxDigits := by
  rw [isWritable, decide_eq_true_iff]

/-- A check has a formula if its base is read, its stat has a modifier, and the sum can be
written. -/
theorem checkFormula_eq_ok {base stat : Value} {formula : DiceFormula} :
    checkFormula base stat = .ok formula ↔ ∃ read added, DiceFormula.ofValue base = .ok read ∧
      statModifier stat = .ok added ∧ (Number.int (read.modifier + added)).isWritable = true ∧
      formula = read.withModifier (read.modifier + added) := by
  unfold checkFormula
  constructor
  · intro made
    obtain ⟨read, based, made⟩ := bind_eq_ok.mp made
    obtain ⟨added, modified, made⟩ := bind_eq_ok.mp made
    dsimp only at made
    split at made
    · rename_i writable
      exact ⟨read, added, based, Fault.lift_eq_ok.mp modified, writable, (pure_eq_ok.mp made).symm⟩
    · cases made
  · rintro ⟨read, added, based, modified, writable, rfl⟩
    refine bind_eq_ok.mpr ⟨read, based, bind_eq_ok.mpr ⟨added, Fault.lift_eq_ok.mpr modified, ?_⟩⟩
    exact if_pos writable

end Gamebook
