import Gamebook.Number.Decimal

/-!
Decimals and the doubles they are read as. Only the value of a decimal counts, not on which power of
ten it is counted; the shortest decimal of a double is read as that double.
-/
namespace Gamebook

namespace Double

theorem roundHalfEven_scale (num den : Nat) {factor : Nat} (positive : 0 < factor) :
    roundHalfEven (num * factor) (den * factor) = roundHalfEven num den := by
  have below : num * factor / (den * factor) = num / den := Nat.mul_div_mul_right _ _ positive
  have rest : num * factor % (den * factor) = num % den * factor := Nat.mul_mod_mul_right ..
  have less : 2 * (num % den * factor) < den * factor ↔ 2 * (num % den) < den := by
    rw [← Nat.mul_assoc]
    exact Nat.mul_lt_mul_right positive
  have more : den * factor < 2 * (num % den * factor) ↔ den < 2 * (num % den) := by
    rw [← Nat.mul_assoc]
    exact Nat.mul_lt_mul_right positive
  simp only [roundHalfEven, below, rest, less, more]

theorem nearest_scale (num den : Nat) {factor : Nat} (positive : 0 < factor) :
    nearest (num * factor) (den * factor) = nearest num den := by
  have gap : spacing (num * factor) (den * factor) = spacing num den := by
    rw [spacing, Nat.mul_div_mul_right _ _ positive, ← spacing]
  rw [nearest, gap, Nat.mul_right_comm, roundHalfEven_scale _ _ positive, ← nearest]

theorem nearest_eq {num den other otherDen : Nat} (positive : 0 < den) (otherPositive : 0 < otherDen)
    (same : num * otherDen = other * den) : nearest num den = nearest other otherDen := by
  rw [← nearest_scale num den otherPositive, same, Nat.mul_comm den, nearest_scale _ _ positive]

/-- What the format holds is not rounded. -/
theorem nearest_of_fits {units : Nat} (fits : Fits units) : nearest units 1 = units := by
  have gap : spacing units 1 ∣ units := by
    rw [spacing, Nat.div_one]
    exact fits.2
  have whole : units % spacing units 1 = 0 := Nat.mod_eq_zero_of_dvd gap
  have positive : 0 < spacing units 1 := Nat.two_pow_pos _
  rw [nearest, roundHalfEven, Nat.one_mul, whole]
  simp only [Nat.mul_zero, if_pos positive]
  exact Nat.div_mul_cancel gap

theorem length_toDigits_mul {number : Nat} (positive : 0 < number) (power : Nat) :
    (Nat.toDigits 10 (number * 10 ^ power)).length = (Nat.toDigits 10 number).length + power := by
  induction power with
  | zero => simp
  | succ power ih =>
    have large : 10 ≤ number * 10 ^ (power + 1) :=
      calc 10 ≤ 10 ^ (power + 1) := Nat.le_self_pow (by omega) 10
        _ ≤ number * 10 ^ (power + 1) := Nat.le_mul_of_pos_left _ positive
    rw [Nat.toDigits_of_base_le (by decide) large, Nat.pow_succ, ← Nat.mul_assoc,
      Nat.mul_div_cancel _ (by decide), List.length_append, ih]
    rfl

theorem shifted_ratio (digits unit power : Nat) (exponent : Int) :
    digits * 10 ^ power * unit * 10 ^ (exponent - power).toNat * 10 ^ (-exponent).toNat =
      digits * unit * 10 ^ exponent.toNat * 10 ^ (-(exponent - power)).toNat := by
  have powers : power + (exponent - power).toNat + (-exponent).toNat =
      exponent.toNat + (-(exponent - power)).toNat := by omega
  calc digits * 10 ^ power * unit * 10 ^ (exponent - power).toNat * 10 ^ (-exponent).toNat
      = digits * unit * 10 ^ (power + (exponent - power).toNat + (-exponent).toNat) := by
        rw [Nat.pow_add, Nat.pow_add]
        ac_rfl
    _ = digits * unit * 10 ^ exponent.toNat * 10 ^ (-(exponent - power)).toNat := by
        rw [powers, Nat.pow_add]
        ac_rfl

theorem ofDecimal_shift (negative : Bool) (digits power : Nat) (exponent : Int) :
    ofDecimal negative (digits * 10 ^ power) (exponent - power) = ofDecimal negative digits exponent := by
  rcases Nat.eq_zero_or_pos digits with rfl | positive
  · simp [ofDecimal]
  have shifted : digits * 10 ^ power ≠ 0 := by
    have some : 0 < 10 ^ power := Nat.pow_pos (by decide)
    have := Nat.mul_pos positive some
    omega
  have magnitude : ((Nat.toDigits 10 (digits * 10 ^ power)).length : Int) + (exponent - power) =
      (Nat.toDigits 10 digits).length + exponent := by
    rw [length_toDigits_mul positive]
    omega
  have ratio := nearest_eq (Nat.pow_pos (by decide)) (Nat.pow_pos (by decide))
    (shifted_ratio digits one power exponent)
  simp only [ofDecimal, magnitude, shifted, Nat.ne_of_gt positive, if_false, ofRatio,
    ratio]

theorem ofDecimal_sign (digits : Nat) (exponent : Int) :
    (∃ units, ∀ negative, ofDecimal negative digits exponent = ofUnits negative units) ∨
      ∀ negative, ofDecimal negative digits exponent = .infinite negative := by
  simp only [ofDecimal, ofRatio]
  split
  · exact .inl ⟨0, fun _ => rfl⟩
  split
  · exact .inr fun _ => rfl
  split
  · exact .inl ⟨0, fun _ => rfl⟩
  · exact .inl ⟨_, fun _ => rfl⟩

theorem ofDecimal_zero (fits : Fits 0) (negative : Bool) (exponent : Int) :
    ofDecimal negative 0 exponent = .finite negative 0 fits := by
  rw [ofDecimal, if_pos rfl, ofUnits, dif_pos fits]

theorem ofDecimal_of_reads {digits units : Nat} {exponent : Int} (fits : Fits units)
    (reads : (ofDecimal false digits exponent).signed? = some (units : Int)) (negative : Bool) :
    ofDecimal negative digits exponent = .finite negative units fits := by
  rcases ofDecimal_sign digits exponent with ⟨found, same⟩ | infinite
  · rw [same, ofUnits] at reads
    split at reads
    · have equal : (found : Int) = units := Option.some.inj reads
      obtain rfl := Int.ofNat.inj equal
      rw [same, ofUnits, dif_pos fits]
    · cases reads
  · rw [infinite] at reads
    cases reads

end Double

namespace Decimal

theorem readsAs_iff {units : Nat} {decimal : Decimal} : readsAs units decimal = true ↔
    (Double.ofDecimal false decimal.digits decimal.exponent).signed? = some (units : Int) := by
  simp [readsAs]

theorem digits_pos {units : Nat} {decimal : Decimal} (positive : 0 < units)
    (reads : readsAs units decimal = true) : 0 < decimal.digits := by
  refine Nat.pos_of_ne_zero fun zero => ?_
  have fits : Fits 0 := ⟨Nat.two_pow_pos _, Nat.dvd_zero _⟩
  rw [readsAs_iff, zero, Double.ofDecimal_zero fits] at reads
  have same : (0 : Int) = units := Option.some.inj reads
  omega

theorem onGrid?_reads {units : Nat} {exponent : Int} {decimal : Decimal}
    (found : onGrid? units exponent = some decimal) : readsAs units decimal = true := by
  unfold onGrid? at found
  generalize scaled units exponent = grid at found
  obtain ⟨num, den⟩ := grid
  dsimp only at found
  split at found
  · rename_i reads
    rwa [← Option.some.inj found]
  split at found
  · rename_i reads
    rwa [← Option.some.inj found]
  split at found
  · rename_i reads
    rwa [← Option.some.inj found]
  · cases found

/-- An expansion that ends on a power of ten between the bounds of what is looked at. -/
theorem expansion_reads {units power : Nat} (fits : Fits units) (positive : 0 < units)
    (unit : Double.one = 2 ^ power) (upper : units * 5 ^ power < 10 ^ (power + 400))
    (lower : 10 ^ (power - 401) ≤ units * 5 ^ power) (enough : 401 < power) :
    readsAs units ⟨units * 5 ^ power, -power⟩ = true := by
  have digits : units * 5 ^ power ≠ 0 := by
    have some : 0 < 5 ^ power := Nat.pow_pos (by decide)
    have := Nat.mul_pos positive some
    omega
  have notLarge : (Nat.toDigits 10 (units * 5 ^ power)).length ≤ power + 400 :=
    (Nat.length_toDigits_le_iff (by decide) (by omega)).mpr upper
  have notSmall : power - 401 < (Nat.toDigits 10 (units * 5 ^ power)).length := by
    refine Nat.lt_of_not_le fun short => ?_
    exact absurd ((Nat.length_toDigits_le_iff (by decide) (by omega)).mp short) (Nat.not_lt.mpr lower)
  have exponents : (-(power : Int)).toNat = 0 ∧ (-(-(power : Int))).toNat = power := by omega
  have ratio : Double.nearest (units * 5 ^ power * Double.one * 10 ^ 0) (10 ^ power) = units := by
    have cross : units * 5 ^ power * Double.one * 10 ^ 0 * 1 = units * 10 ^ power := by
      rw [unit, Nat.mul_one, Nat.pow_zero, Nat.mul_one, Nat.mul_assoc, ← Nat.mul_pow]
    rw [Double.nearest_eq (Nat.pow_pos (by decide)) (by decide) cross, Double.nearest_of_fits fits]
  rw [readsAs_iff, Double.ofDecimal]
  dsimp only
  rw [if_neg digits, if_neg (by omega), if_neg (by omega), exponents.1, exponents.2,
    Double.ofRatio, ratio, Double.ofUnits, dif_pos fits]
  rfl

theorem expansion_lt {units : Nat} (power more : Nat) (bound : units < 2 ^ (power + more))
    (small : 2 ^ more ≤ 10 ^ 400) : units * 5 ^ power < 10 ^ (power + 400) :=
  calc units * 5 ^ power < 2 ^ (power + more) * 5 ^ power :=
        Nat.mul_lt_mul_of_pos_right bound (Nat.pow_pos (by decide))
    _ = 10 ^ power * 2 ^ more := by
        rw [Nat.pow_add, Nat.mul_right_comm, ← Nat.mul_pow]
    _ ≤ 10 ^ power * 10 ^ 400 := Nat.mul_le_mul_left _ small
    _ = 10 ^ (power + 400) := (Nat.pow_add ..).symm

theorem exact_reads {units : Nat} (fits : Fits units) (positive : 0 < units) :
    readsAs units ⟨units * 5 ^ 1074, -1074⟩ = true := by
  have small : 2 ^ 1024 ≤ 10 ^ 400 :=
    calc 2 ^ 1024 ≤ 2 ^ (3 * 400) := Nat.pow_le_pow_right (by decide) (by decide)
      _ = (2 ^ 3) ^ 400 := Nat.pow_mul 2 3 400
      _ ≤ 10 ^ 400 := Nat.pow_le_pow_left (by decide) 400
  have large : 10 ^ (1074 - 401) ≤ 5 ^ 1074 :=
    calc 10 ^ (1074 - 401) ≤ 10 ^ (2 * 358) := Nat.pow_le_pow_right (by decide) (by decide)
      _ = (10 ^ 2) ^ 358 := Nat.pow_mul 10 2 358
      _ ≤ (5 ^ 3) ^ 358 := Nat.pow_le_pow_left (by decide) 358
      _ = 5 ^ 1074 := (Nat.pow_mul 5 3 358).symm
  exact expansion_reads fits positive rfl (expansion_lt 1074 1024 fits.1 small)
    (Nat.le_trans large (Nat.le_mul_of_pos_left _ positive)) (by decide)

theorem shortest_reads {units : Nat} (fits : Fits units) (positive : 0 < units) :
    readsAs units (shortest units) = true := by
  unfold shortest
  dsimp only
  cases found : (List.range 18).findSome? fun more =>
    onGrid? units (leadingPower units + 1 - (more : Nat)) with
  | none => exact exact_reads fits positive
  | some decimal =>
    obtain ⟨more, _, here⟩ := List.exists_of_findSome?_eq_some found
    exact onGrid?_reads here

end Decimal
end Gamebook
