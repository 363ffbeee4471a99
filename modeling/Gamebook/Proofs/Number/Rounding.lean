import Gamebook.Number.Double

/-!
Rounding to the grid of doubles. What is rounded lies on the grid, and is at most twice as large as
what it came from, so only large quotients become infinite.
-/
namespace Gamebook.Double

theorem roundHalfEven_le (num den : Nat) : roundHalfEven num den ≤ num / den + 1 := by
  unfold roundHalfEven
  dsimp only
  split
  · omega
  · split <;> omega

/-- There are at most 53 bits before the rounding. -/
private theorem steps_lt (quotient : Nat) : quotient / 2 ^ (quotient.log2 - 52) < 2 ^ 53 := by
  rw [Nat.div_lt_iff_lt_mul (Nat.two_pow_pos _), ← Nat.pow_add]
  calc quotient < 2 ^ (quotient.log2 + 1) := Nat.lt_log2_self
    _ ≤ 2 ^ (53 + (quotient.log2 - 52)) := Nat.pow_le_pow_right (by decide) (by omega)

private theorem steps_le (num den : Nat) :
    roundHalfEven num (den * spacing num den) ≤ num / den / spacing num den + 1 := by
  rw [Nat.div_div_eq_div_mul]
  exact roundHalfEven_le _ _

private theorem grid_dvd {steps power : Nat} (few : steps ≤ 2 ^ 53) :
    2 ^ ((steps * 2 ^ power).log2 - 52) ∣ steps * 2 ^ power := by
  rcases Nat.lt_or_eq_of_le few with fewer | most
  · refine Nat.dvd_trans (Nat.pow_dvd_pow 2 ?_) (Nat.dvd_mul_left _ _)
    have bound : steps * 2 ^ power < 2 ^ (53 + power) := by
      rw [Nat.pow_add]
      exact Nat.mul_lt_mul_of_pos_right fewer (Nat.two_pow_pos _)
    by_cases none : steps * 2 ^ power = 0
    · simp [none]
    · have := (Nat.log2_lt none).mpr bound
      omega
  · rw [most, ← Nat.pow_add, Nat.log2_two_pow]
    exact Nat.pow_dvd_pow 2 (by omega)

theorem grid_fits {steps power : Nat} (few : steps ≤ 2 ^ 53) (small : steps * 2 ^ power < 2 ^ 2098) :
    Fits (steps * 2 ^ power) := by
  exact ⟨small, grid_dvd few⟩

theorem nearest_fits {num den : Nat} (small : nearest num den < 2 ^ 2098) :
    Fits (nearest num den) :=
  grid_fits (Nat.le_trans (steps_le num den) (steps_lt (num / den))) small

theorem nearest_le (num den : Nat) : nearest num den ≤ 2 * (num / den) + 1 := by
  have rounded : nearest num den ≤ num / den + spacing num den :=
    calc nearest num den ≤ (num / den / spacing num den + 1) * spacing num den :=
          Nat.mul_le_mul_right _ (steps_le num den)
      _ = num / den / spacing num den * spacing num den + spacing num den := by
          rw [Nat.add_mul, Nat.one_mul]
      _ ≤ num / den + spacing num den := Nat.add_le_add_right (Nat.div_mul_le_self _ _) _
  have gap : spacing num den ≤ num / den + 1 := by
    unfold spacing
    by_cases none : num / den = 0
    · simp [none]
    · calc 2 ^ ((num / den).log2 - 52) ≤ 2 ^ (num / den).log2 := Nat.pow_le_pow_right (by decide) (by omega)
        _ ≤ num / den + 1 := Nat.le_succ_of_le (Nat.log2_self_le none)
  omega

private theorem nearest_lt {num den power limit : Nat} (bound : 2 + power ≤ limit)
    (small : num / den < 2 ^ power) : nearest num den < 2 ^ limit := by
  refine Nat.lt_of_lt_of_le ?_ (Nat.pow_le_pow_right Nat.two_pos bound)
  have near := nearest_le num den
  rw [Nat.pow_add]
  omega

/-- Finite, not negative, and below a power of two. -/
def Within (power : Nat) (x : Double) : Prop :=
  ∃ units fits, x = .finite false units fits ∧ units < 2 ^ power * one

theorem ofRatio_within {num den power : Nat} (bound : power ≤ 1022)
    (small : num / den < 2 ^ power * one) : (ofRatio false num den).Within (2 + power) := by
  have near := nearest_le num den
  have below := small
  rw [one, ← Nat.pow_add 2 power 1074] at below
  have representable := nearest_lt (by omega : 2 + (power + 1074) ≤ 2098) below
  have fits := nearest_fits representable
  refine ⟨nearest num den, fits, ?_, ?_⟩
  · unfold ofRatio ofUnits
    rw [dif_pos fits]
  · rw [Nat.pow_add, Nat.mul_assoc]
    omega

theorem one_pos : 0 < one := by
  rw [one]
  exact Nat.two_pow_pos 1074

theorem zero_fits : Fits 0 := by
  unfold Fits
  exact ⟨Nat.two_pow_pos 2098, Nat.dvd_zero _⟩

theorem Within.add {x y : Double} {power : Nat} (bound : power ≤ 1021) (left : x.Within power)
    (right : y.Within power) : (x.add y).Within (3 + power) := by
  obtain ⟨units, fits, rfl, small⟩ := left
  obtain ⟨others, fitsOthers, rfl, smallOthers⟩ := right
  have total : withSign false units + withSign false others = ((units + others : Nat) : Int) := by
    simp [withSign]
  unfold Double.add
  dsimp only
  rw [total]
  split
  · exact ⟨0, zero_fits, dif_pos zero_fits, Nat.mul_pos (Nat.two_pow_pos _) one_pos⟩
  · have positive : decide (((units + others : Nat) : Int) < 0) = false := by simp; omega
    have sum : (units + others) / 1 < 2 ^ (power + 1) * one := by
      rw [Nat.div_one, Nat.pow_succ, Nat.mul_right_comm]
      omega
    rw [positive, Int.natAbs_natCast, show 3 + power = 2 + (power + 1) by omega]
    exact ofRatio_within (by omega) sum

theorem Within.truncate {x : Double} {power : Nat} (within : x.Within power) :
    ∃ whole, x.truncate? = some whole := by
  obtain ⟨units, fits, rfl, _⟩ := within
  exact ⟨_, rfl⟩

theorem le_roundHalfEven (num den : Nat) : num / den ≤ roundHalfEven num den := by
  unfold roundHalfEven
  dsimp only
  split
  · omega
  · split <;> omega

theorem roundHalfEven_le_of_le {num den most : Nat} (positive : 0 < den) (bound : num ≤ most * den) :
    roundHalfEven num den ≤ most := by
  have below : num / den ≤ most := Nat.div_le_of_le_mul (Nat.mul_comm most den ▸ bound)
  rcases Nat.lt_or_eq_of_le below with less | same
  · exact Nat.le_trans (roundHalfEven_le num den) less
  · have whole : num = most * den := Nat.le_antisymm bound (same ▸ Nat.div_mul_le_self num den)
    have rest : num % den = 0 := by rw [whole, Nat.mul_mod_left]
    unfold roundHalfEven
    simp only [rest, same, Nat.mul_zero, if_pos positive, Nat.le_refl]

private theorem log2_le {small large : Nat} (bound : small ≤ large) : small.log2 ≤ large.log2 := by
  by_cases none : small = 0
  · simp [none]
  · have some : large ≠ 0 := by omega
    exact (Nat.le_log2 some).mpr (Nat.le_trans (Nat.log2_self_le none) bound)

/-- What is rounded never goes past a number of the format. -/
theorem nearest_le_of_fits {num den most : Nat} (positive : 0 < den) (fits : Fits most)
    (bound : num ≤ most * den) : nearest num den ≤ most := by
  have quotient : num / den ≤ most := Nat.div_le_of_le_mul (Nat.mul_comm most den ▸ bound)
  have finer : 2 ^ ((num / den).log2 - 52) ∣ 2 ^ (most.log2 - 52) :=
    Nat.pow_dvd_pow 2 (Nat.sub_le_sub_right (log2_le quotient) 52)
  have gap : spacing num den ∣ most := Nat.dvd_trans finer fits.2
  have grid : 0 < den * spacing num den := Nat.mul_pos positive (Nat.two_pow_pos _)
  have few : roundHalfEven num (den * spacing num den) ≤ most / spacing num den := by
    refine roundHalfEven_le_of_le grid ?_
    rwa [Nat.mul_comm den, ← Nat.mul_assoc, Nat.div_mul_cancel gap]
  calc nearest num den ≤ most / spacing num den * spacing num den := Nat.mul_le_mul_right _ few
    _ = most := Nat.div_mul_cancel gap

theorem ofRatio_finite {num den most : Nat} (negative : Bool) (positive : 0 < den) (fits : Fits most)
    (bound : num ≤ most * den) : (ofRatio negative num den).isFinite = true := by
  have near := nearest_le_of_fits positive fits bound
  have representable := nearest_fits (Nat.lt_of_le_of_lt near fits.1)
  rw [ofRatio, ofUnits, dif_pos representable]
  rfl

theorem lt_twice_nearest {units : Nat} (positive : 0 < units) : units < 2 * nearest units 1 := by
  have gap : spacing units 1 ≤ units := by
    rw [spacing, Nat.div_one]
    calc 2 ^ (units.log2 - 52) ≤ 2 ^ units.log2 := Nat.pow_le_pow_right Nat.two_pos (Nat.sub_le _ _)
      _ ≤ units := Nat.log2_self_le (Nat.ne_of_gt positive)
  have pos : 0 < spacing units 1 := Nat.two_pow_pos _
  have first : spacing units 1 ≤ units / spacing units 1 * spacing units 1 :=
    Nat.le_mul_of_pos_left _ (Nat.div_pos gap pos)
  have below : units / spacing units 1 * spacing units 1 ≤ nearest units 1 := by
    refine Nat.mul_le_mul_right _ ?_
    rw [Nat.one_mul]
    exact le_roundHalfEven units (spacing units 1)
  have rest : units < units / spacing units 1 * spacing units 1 + spacing units 1 :=
    Nat.lt_div_mul_add pos
  omega

private theorem grid_lt {steps power limit : Nat} (few : steps ≤ 2 ^ 53) (bound : 53 + power < limit) :
    steps * 2 ^ power < 2 ^ limit := by
  refine Nat.lt_of_le_of_lt (Nat.mul_le_mul_right _ few) ?_
  rw [← Nat.pow_add]
  exact Nat.pow_lt_pow_right (by decide) bound

private theorem units_fits {number power : Nat} (few : number ≤ 2 ^ 53) (bound : 53 + power < 2098)
    (unit : one = 2 ^ power) : Fits (number * one) := by
  have small := grid_lt few bound
  rw [unit]
  exact grid_fits few small

theorem whole_fits {number : Nat} (few : number ≤ 2 ^ 53) : Fits (number * one) :=
  units_fits few (by decide) one.eq_def

end Gamebook.Double
