import Gamebook.Proofs.Number.Decimal
import Gamebook.Proofs.Number.Rounding

/-!
Where rounding ends in infinity. The gap between doubles below a power of two decides: a magnitude is
rounded up to that power exactly if it is within half a gap of it.
-/
namespace Gamebook.Double

/-- Magnitudes from here on are rounded up to infinity. -/
def endless : Nat := 2 ^ 1024 - 2 ^ 970

/-- A quotient is rounded below an even number if it is below the half before it. -/
theorem roundHalfEven_lt_iff {num den most : Nat} (positive : 0 < den) (even : most % 2 = 0) :
    roundHalfEven num den < most ↔ 2 * num + den < 2 * (most * den) := by
  have whole := Nat.div_add_mod num den
  have rest := Nat.mod_lt num positive
  unfold roundHalfEven
  dsimp only
  generalize num / den = below at *
  generalize num % den = rest at *
  subst whole
  rcases Nat.lt_trichotomy (below + 1) most with less | rfl | more
  · obtain ⟨gap, rfl⟩ := Nat.exists_eq_add_of_lt less
    simp only [Nat.add_mul, Nat.one_mul, Nat.mul_comm den]
    refine iff_of_true ?_ (by omega)
    split
    · omega
    · split <;> omega
  · simp only [Nat.add_mul, Nat.one_mul, Nat.mul_comm den]
    split
    · omega
    · split <;> omega
  · obtain ⟨gap, rfl⟩ := Nat.exists_eq_add_of_le (Nat.le_of_lt_succ more)
    simp only [Nat.add_mul, Nat.mul_comm den]
    refine iff_of_false ?_ (by omega)
    split
    · omega
    · split <;> omega

section
variable {num den : Nat} (positive : 0 < den)
include positive

/-- A number has fewer than 2^53 steps of its grid. -/
private theorem lt_spacing : num < 2 ^ 53 * spacing num den * den := by
  rw [spacing, ← Nat.pow_add, ← Nat.div_lt_iff_lt_mul positive]
  calc num / den < 2 ^ ((num / den).log2 + 1) := Nat.lt_log2_self
    _ ≤ 2 ^ (53 + ((num / den).log2 - 52)) := Nat.pow_le_pow_right Nat.two_pos (by omega)

/-- And half as many at least, unless it is too small for them. -/
private theorem spacing_le (normal : 52 < (num / den).log2) : 2 ^ 52 * spacing num den * den ≤ num := by
  have some : num / den ≠ 0 := by
    intro none
    rw [none] at normal
    cases normal
  have exponent : 52 + ((num / den).log2 - 52) = (num / den).log2 := by omega
  rw [spacing, ← Nat.pow_add, ← Nat.le_div_iff_mul_le positive, exponent]
  exact Nat.log2_self_le some

/-- Half a gap below a power of two, numbers are rounded up to it. -/
theorem nearest_lt_iff {gap : Nat} :
    nearest num den < 2 ^ 54 * 2 ^ gap ↔ num + 2 ^ gap * den < 2 ^ 54 * 2 ^ gap * den := by
  have grid : 0 < den * spacing num den := Nat.mul_pos positive (Nat.two_pow_pos _)
  have fine : 0 < spacing num den := Nat.two_pow_pos _
  have half : 0 < 2 ^ gap * den := Nat.mul_pos (Nat.two_pow_pos _) positive
  have bits : num < 2 ^ 53 * spacing num den * den := lt_spacing positive
  rw [Nat.mul_assoc (2 ^ 54)]
  rcases Nat.lt_trichotomy (num / den).log2 (gap + 53) with less | same | more
  · have finer : spacing num den ≤ 2 ^ gap := Nat.pow_le_pow_right Nat.two_pos (by omega)
    have few : roundHalfEven num (den * spacing num den) ≤ 2 ^ 53 := by
      refine roundHalfEven_le_of_le grid (Nat.le_of_lt ?_)
      rwa [Nat.mul_comm den, ← Nat.mul_assoc]
    have near : nearest num den ≤ 2 ^ 53 * 2 ^ gap := Nat.mul_le_mul few finer
    have small : num < 2 ^ 53 * (2 ^ gap * den) := by
      rw [← Nat.mul_assoc]
      exact Nat.lt_of_lt_of_le bits (Nat.mul_le_mul_right _ (Nat.mul_le_mul_left _ finer))
    have := Nat.two_pow_pos gap
    exact iff_of_true (by omega) (by omega)
  · have double : spacing num den = 2 * 2 ^ gap := by
      rw [spacing, same, ← Nat.pow_succ']
      rfl
    have even : 2 ^ 54 * 2 ^ gap = 2 ^ 53 * spacing num den := by omega
    have whole : den * spacing num den = 2 * (2 ^ gap * den) := by rw [double]; ac_rfl
    rw [even, nearest, Nat.mul_lt_mul_right fine,
      roundHalfEven_lt_iff grid (by decide), whole]
    omega
  · have large : 2 ^ 54 * 2 ^ gap ≤ 2 ^ 52 * spacing num den := by
      rw [spacing, ← Nat.pow_add, ← Nat.pow_add]
      exact Nat.pow_le_pow_right Nat.two_pos (by omega)
    have least : 2 ^ 52 * spacing num den * den ≤ num := spacing_le positive (by omega)
    have many : 2 ^ 52 ≤ roundHalfEven num (den * spacing num den) := by
      refine Nat.le_trans ?_ (le_roundHalfEven _ _)
      rwa [Nat.le_div_iff_mul_le grid, Nat.mul_comm den, ← Nat.mul_assoc]
    have far : 2 ^ 52 * spacing num den ≤ nearest num den := Nat.mul_le_mul_right _ many
    have past : 2 ^ 54 * (2 ^ gap * den) ≤ num := by
      rw [← Nat.mul_assoc]
      exact Nat.le_trans (Nat.mul_le_mul_right _ large) least
    exact iff_of_false (by omega) (by omega)

private theorem nearest_lt_of_unit {gap power top : Nat} (unit : one = 2 ^ power)
    (same : top = 54 + gap + power) :
    nearest (num * one) den < 2 ^ top ↔ num < (2 ^ (54 + gap) - 2 ^ gap) * den := by
  have high : 2 ^ top = 2 ^ 54 * 2 ^ (gap + power) := by rw [same, Nat.add_assoc, Nat.pow_add]
  have split : 2 ^ 54 * 2 ^ (gap + power) * den = 2 ^ (54 + gap) * den * 2 ^ power := by
    rw [Nat.pow_add, Nat.pow_add]
    ac_rfl
  have rest : num * 2 ^ power + 2 ^ (gap + power) * den = (num + 2 ^ gap * den) * 2 ^ power := by
    rw [Nat.pow_add, Nat.add_mul]
    ac_rfl
  rw [high, nearest_lt_iff positive, unit, split, rest, Nat.mul_lt_mul_right (Nat.two_pow_pos _),
    Nat.sub_mul, Nat.lt_sub_iff_add_lt]

/-- A quotient of whole numbers is a double if it is not endless. -/
theorem fits_nearest_iff : Fits (nearest (num * one) den) ↔ num < endless * den := by
  have finite : Fits (nearest (num * one) den) ↔ nearest (num * one) den < 2 ^ 2098 :=
    ⟨fun fits => fits.1, nearest_fits⟩
  have unit : one = 2 ^ 1074 := one.eq_def
  have same : 2098 = 54 + 970 + 1074 := rfl
  have high : 1024 = 54 + 970 := rfl
  rw [finite, endless, high]
  generalize 2098 = top, 970 = gap, 1074 = power at *
  exact nearest_lt_of_unit positive unit same

theorem ofRatio_eq_infinite {negative other : Bool} :
    ofRatio negative (num * one) den = .infinite other ↔ negative = other ∧ endless * den ≤ num := by
  rw [← Nat.not_lt, ← fits_nearest_iff positive, ofRatio, ofUnits]
  split
  · rename_i fits
    exact iff_of_false (by rintro ⟨⟩) fun large => absurd fits large.2
  · rename_i large
    rw [Double.infinite.injEq, and_iff_left large]

end

theorem ofInt?_eq_none {value : Int} : ofInt? value = none ↔ endless ≤ value.natAbs := by
  have infinite := @ofRatio_eq_infinite value.natAbs 1 Nat.one_pos (decide (value < 0))
  rw [Nat.mul_one endless] at infinite
  rw [ofInt?]
  cases rounded : ofRatio (decide (value < 0)) (value.natAbs * one) 1 with
  | nan mark =>
    rw [ofRatio, ofUnits] at rounded
    split at rounded <;> cases rounded
  | infinite other => exact iff_of_true rfl (infinite.mp rounded).2
  | finite negative units fits =>
    refine iff_of_false (by rintro ⟨⟩) fun large => ?_
    rw [infinite.mpr ⟨rfl, large⟩] at rounded
    cases rounded

theorem isFinite_of_ofInt? {value : Int} {x : Double} (held : ofInt? value = some x) :
    x.isFinite = true := by
  rw [ofInt?] at held
  cases rounded : ofRatio (decide (value < 0)) (value.natAbs * one) 1 with
  | finite negative units fits =>
    rw [rounded] at held
    cases held
    rfl
  | _ =>
    rw [rounded] at held
    cases held

theorem isZero_of_ofInt? {value : Int} {x : Double} (held : ofInt? value = some x)
    (zero : x.isZero = true) : value = 0 := by
  rw [ofInt?, ofRatio, ofUnits] at held
  split at held
  · cases held
    have nothing : nearest (value.natAbs * one) 1 = 0 := by simpa [isZero] using zero
    refine Int.natAbs_eq_zero.mp (Nat.eq_zero_of_not_pos fun positive => ?_)
    have := lt_twice_nearest (Nat.mul_pos positive one_pos)
    omega
  · cases held

end Gamebook.Double
