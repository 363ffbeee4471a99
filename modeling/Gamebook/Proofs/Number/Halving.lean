import Gamebook.Proofs.Number.Overflowing

/-!
Halves of whole numbers. A half is rounded to 53 significant bits before it is rounded down, so that
large halves can come out wrong, and the largest are not finite.
-/
namespace Gamebook.Double

/-- The gap between the halves that doubles can hold around half of a large number. -/
def grain (whole : Nat) : Nat := 2 ^ (whole.log2 - 53)

/-- What half of a whole number is rounded down to after it was rounded to a double. -/
def roundedHalf (whole : Int) : Int :=
  if whole < 2 ^ 53 then whole / 2
  else (roundHalfEven whole.toNat (2 * grain whole.toNat) * grain whole.toNat : Nat)

/-- From here on halves are rounded up to infinity. -/
def endlessHalf : Nat := 2 ^ 1025 - 2 ^ 971

/-- Half of a whole number, rounded down, comes out right: the number is small, or that half is a
double, and no odd one that a fraction of a half takes away from. -/
def HalvesExactly (whole : Int) : Prop :=
  whole < 2 ^ 53 ∨ Fits ((whole / 2).toNat * one) ∧ whole % 4 ≠ 3

theorem endlessHalf_eq : endlessHalf = endless * 2 := by
  have next : 1025 = 1024 + 1 := rfl
  have nextGap : 971 = 970 + 1 := rfl
  unfold endlessHalf endless
  generalize 1025 = top, 1024 = power, 971 = wide, 970 = gap at *
  rw [next, nextGap, Nat.pow_succ, Nat.pow_succ, ← Nat.sub_mul]

theorem grain_pos (whole : Nat) : 0 < grain whole := Nat.two_pow_pos _

theorem grain_parity (whole : Nat) : grain whole = 1 ∨ grain whole % 2 = 0 := by
  unfold grain
  cases whole.log2 - 53 with
  | zero => exact .inl rfl
  | succ power => exact .inr (by rw [Nat.pow_succ, Nat.mul_mod_left])

section
variable {whole grain : Nat}

/-- Half of an odd number, rounded down, is wrong if it is odd: with the fraction it is even. -/
theorem half_ne_of_odd (parity : grain = 1 ∨ grain % 2 = 0) (odd : whole % 4 = 3) :
    roundHalfEven whole (2 * grain) * grain ≠ whole / 2 := by
  intro same
  rcases parity with rfl | even
  · unfold roundHalfEven at same
    dsimp only at same
    split at same
    · omega
    · split at same <;> omega
  · have : roundHalfEven whole (2 * grain) * grain % 2 = 0 := by
      rw [Nat.mul_mod, even, Nat.mul_zero, Nat.zero_mod]
    omega

/-- A half that its grain divides is only rounded if there is a fraction as large as the grain. -/
theorem roundHalfEven_half {steps : Nat} (positive : 0 < grain) (half : whole / 2 = grain * steps)
    (odd : whole % 4 ≠ 3) : roundHalfEven whole (2 * grain) = steps := by
  have parts : whole = whole % 2 + 2 * grain * steps := by
    rw [Nat.mul_assoc, ← half]
    omega
  have rest : whole % (2 * grain) = whole % 2 := by
    rw [parts, Nat.add_mul_mod_self_left, ← parts]
    exact Nat.mod_eq_of_lt (by omega)
  have below : whole / (2 * grain) = steps := by
    rw [parts, Nat.add_mul_div_left _ _ (by omega), Nat.div_eq_of_lt (by omega), Nat.zero_add]
  unfold roundHalfEven
  dsimp only
  rw [rest, below]
  split
  · rfl
  · -- The fraction is as large as the grain, which is one.
    obtain rfl : grain = 1 := by omega
    split
    · omega
    · omega

end

/-- A half comes out right if its grain divides it and no fraction of it is rounded up. -/
theorem half_eq_iff (whole : Nat) : roundHalfEven whole (2 * grain whole) * grain whole = whole / 2 ↔
    grain whole ∣ whole / 2 ∧ whole % 4 ≠ 3 := by
  constructor
  · intro same
    exact ⟨⟨_, by rw [← same, Nat.mul_comm]⟩, fun odd => half_ne_of_odd (grain_parity whole) odd same⟩
  · rintro ⟨⟨steps, half⟩, odd⟩
    rw [roundHalfEven_half (grain_pos whole) half odd, half, Nat.mul_comm]

theorem log2_large {whole : Nat} (large : 2 ^ 53 ≤ whole) : 53 ≤ whole.log2 := by
  have some : whole ≠ 0 := by
    rintro rfl
    exact absurd large (by decide)
  exact (Nat.le_log2 some).mpr large

theorem log2_mul_two_pow {number : Nat} (positive : 0 < number) (power : Nat) :
    (number * 2 ^ power).log2 = number.log2 + power := by
  have some : number * 2 ^ power ≠ 0 := Nat.ne_of_gt (Nat.mul_pos positive (Nat.two_pow_pos _))
  refine (Nat.log2_eq_iff some).mpr ⟨?_, ?_⟩
  · rw [Nat.pow_add]
    exact Nat.mul_le_mul_right _ (Nat.log2_self_le (Nat.ne_of_gt positive))
  · rw [Nat.add_right_comm, Nat.pow_add]
    exact Nat.mul_lt_mul_of_pos_right Nat.lt_log2_self (Nat.two_pow_pos _)

private theorem mul_lt_of_unit {number power limit top : Nat} (unit : one = 2 ^ power)
    (same : top = limit + power) : number * one < 2 ^ top ↔ number < 2 ^ limit := by
  rw [unit, same, Nat.pow_add]
  exact Nat.mul_lt_mul_right (Nat.two_pow_pos _)

theorem mul_one_lt_iff {number : Nat} : number * one < 2 ^ 2098 ↔ number < 2 ^ 1024 := by
  have unit : one = 2 ^ 1074 := one.eq_def
  have same : 2098 = 1024 + 1074 := rfl
  generalize 2098 = top, 1024 = limit, 1074 = power at *
  exact mul_lt_of_unit unit same

section
variable {whole : Nat} (large : 2 ^ 53 ≤ whole)
include large

private theorem spacing_of_unit {power : Nat} (unit : one = 2 ^ power) (fine : 52 < power) :
    spacing (whole * one) 2 = grain whole * one := by
  obtain ⟨power, rfl⟩ : ∃ less, power = less + 1 := ⟨power - 1, by omega⟩
  have log := log2_large large
  have positive : 0 < whole := Nat.lt_of_lt_of_le (Nat.two_pow_pos 53) large
  have exponent : whole.log2 + power - 52 = whole.log2 - 53 + (power + 1) := by omega
  rw [spacing, unit, Nat.pow_succ, ← Nat.mul_assoc, Nat.mul_div_cancel _ Nat.two_pos,
    log2_mul_two_pow positive, exponent, Nat.pow_add, Nat.pow_succ, grain]

theorem spacing_half : spacing (whole * one) 2 = grain whole * one :=
  spacing_of_unit large one.eq_def (by decide)

theorem nearest_half : nearest (whole * one) 2 =
    roundHalfEven whole (2 * grain whole) * grain whole * one := by
  rw [nearest, spacing_half large, ← Nat.mul_assoc 2, roundHalfEven_scale _ _ one_pos,
    ← Nat.mul_assoc]

theorem fits_nearest_half_iff :
    Fits (roundHalfEven whole (2 * grain whole) * grain whole * one) ↔ whole < endlessHalf := by
  rw [← nearest_half large, fits_nearest_iff Nat.two_pos, endlessHalf_eq]

theorem half_lt_iff :
    roundHalfEven whole (2 * grain whole) * grain whole < 2 ^ 1024 ↔ whole < endlessHalf := by
  rw [← fits_nearest_half_iff large, ← mul_one_lt_iff, ← nearest_half large]
  exact ⟨nearest_fits, fun fits => fits.1⟩

theorem log2_half : (whole / 2).log2 + 1 = whole.log2 := by
  have some : whole / 2 ≠ 0 := by omega
  have least := Nat.log2_self_le some
  have most : whole / 2 < _ := Nat.lt_log2_self
  refine ((Nat.log2_eq_iff (by omega)).mpr ⟨?_, ?_⟩).symm
  · rw [Nat.pow_succ]
    omega
  · rw [Nat.pow_succ]
    omega

private theorem fits_of_unit {power : Nat} (unit : one = 2 ^ power) (fine : 52 < power) :
    Fits (whole / 2 * one) ↔ whole / 2 * one < 2 ^ 2098 ∧ grain whole ∣ whole / 2 := by
  have half : 0 < whole / 2 := by omega
  have log := log2_large large
  have logHalf := log2_half large
  have exponent : (whole / 2).log2 + power - 52 = whole.log2 - 53 + power := by omega
  rw [Fits, unit, log2_mul_two_pow half, exponent, Nat.pow_add,
    Nat.mul_dvd_mul_iff_right (Nat.two_pow_pos _), grain]

theorem fits_half_iff : Fits (whole / 2 * one) ↔ whole / 2 < 2 ^ 1024 ∧ grain whole ∣ whole / 2 := by
  rw [fits_of_unit large one.eq_def (by decide), mul_one_lt_iff]

end

theorem small_lt_endlessHalf : 2 ^ 53 < endlessHalf := by
  have next : 1025 = 971 + 54 := rfl
  have fine : 0 < 971 := by decide
  unfold endlessHalf
  generalize 971 = gap, 1025 = top at *
  have one : 2 ^ 1 ≤ 2 ^ gap := Nat.pow_le_pow_right Nat.two_pos fine
  rw [next, Nat.pow_add]
  omega

private theorem unit_even {power : Nat} (unit : one = 2 ^ power) (positive : 0 < power) :
    ∃ half, one = 2 ^ half * 2 :=
  ⟨power - 1, by rw [unit, ← Nat.pow_succ, Nat.succ_eq_add_one, Nat.sub_add_cancel positive]⟩

theorem nearest_small {whole : Nat} (small : whole < 2 ^ 53) : ∃ half, one = half * 2 ∧
    Fits (whole * half) ∧ nearest (whole * one) 2 = whole * half := by
  obtain ⟨power, unit⟩ := unit_even one.eq_def (by decide)
  have less : whole * 2 ^ power ≤ whole * one := by
    refine Nat.mul_le_mul_left _ ?_
    omega
  have few := Nat.le_of_lt small
  have fits : Fits (whole * 2 ^ power) := grid_fits few (Nat.lt_of_le_of_lt less (whole_fits few).1)
  refine ⟨2 ^ power, unit, fits, ?_⟩
  have same : whole * one * 1 = whole * 2 ^ power * 2 := by rw [unit, Nat.mul_one, Nat.mul_assoc]
  rw [nearest_eq Nat.two_pos Nat.one_pos same, nearest_of_fits fits]

theorem natAbs_roundedHalf_lt {whole : Int} (least : -2 ^ 53 < whole)
    (finite : whole < endlessHalf) : (roundedHalf whole).natAbs < 2 ^ 1024 := by
  have power := Nat.pow_le_pow_right Nat.two_pos (show 53 ≤ 1024 by decide)
  unfold roundedHalf
  split
  · omega
  · obtain ⟨whole, rfl⟩ := Int.eq_ofNat_of_zero_le (show 0 ≤ whole by omega)
    rw [Int.natAbs_natCast, Int.toNat_natCast]
    exact (half_lt_iff (by omega)).mpr (Int.ofNat_lt.mp finite)

/-- Exactly halves that are finite and equal to what is left of them come out right. -/
theorem halvesExactly_iff {whole : Int} :
    HalvesExactly whole ↔ whole < endlessHalf ∧ roundedHalf whole = whole / 2 := by
  unfold HalvesExactly roundedHalf
  by_cases small : whole < 2 ^ 53
  · have := small_lt_endlessHalf
    simp only [small, if_true, true_or, and_true, true_iff]
    omega
  · rw [if_neg small, or_iff_right small]
    obtain ⟨whole, rfl⟩ := Int.eq_ofNat_of_zero_le (show 0 ≤ whole by omega)
    have large : 2 ^ 53 ≤ whole := by omega
    have fraction : (whole : Int) % 4 ≠ 3 ↔ whole % 4 ≠ 3 := by omega
    have half : ((whole : Int) / 2).toNat = whole / 2 := by omega
    have casts : (roundHalfEven whole (2 * grain whole) * grain whole : Nat) = (whole : Int) / 2 ↔
      roundHalfEven whole (2 * grain whole) * grain whole = whole / 2 := by omega
    rw [Int.toNat_natCast, half, fraction, Int.ofNat_lt, casts, ← half_lt_iff large,
      fits_half_iff large, and_assoc, ← half_eq_iff whole]
    exact and_congr_left fun same => by rw [same]

end Gamebook.Double
