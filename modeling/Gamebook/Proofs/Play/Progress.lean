import Gamebook.Play.Progress
import Gamebook.Proofs.Number.Rounding
import Gamebook.Proofs.Outcome

/-!
Progress can be worked out whenever not far more nodes were visited than there are.
-/
namespace Gamebook

namespace Number

theorem ofRounded_cases (x : Double) : ofRounded x = .error .tooLarge ∨ ofRounded x = .ok (.real x) := by
  cases x
  · exact .inr rfl
  · exact .inl rfl
  · exact .inr rfl

theorem div_cases (a b : Int) : (Number.int a).div (.int b) = .error .tooLarge ∨
    ∃ share, (Number.int a).div (.int b) = .ok (.real share) := by
  rw [div]
  exact (ofRounded_cases _).imp_right fun ok => ⟨_, ok⟩

end Number

namespace Progress

private theorem share_lt {visited total power one : Nat} (positive : 0 < one)
    (most : visited ≤ total * 2 ^ power) : visited * 100 * one / total < 2 ^ (7 + power) * one := by
  rcases Nat.eq_zero_or_pos total with none | some
  · simpa [none] using Nat.mul_pos (Nat.two_pow_pos (7 + power)) positive
  · rw [Nat.div_lt_iff_lt_mul some, Nat.mul_right_comm _ one]
    refine Nat.mul_lt_mul_of_pos_right ?_ positive
    have nodes := Nat.mul_pos some (Nat.two_pow_pos power)
    calc visited * 100 ≤ total * 2 ^ power * 100 := Nat.mul_le_mul_right _ most
      _ < total * 2 ^ power * 2 ^ 7 := Nat.mul_lt_mul_of_pos_left (by decide) nodes
      _ = 2 ^ (7 + power) * total := by rw [Nat.pow_add, Nat.mul_comm, Nat.mul_comm total, Nat.mul_assoc]

private theorem half_lt {power one : Nat} (positive : 0 < one) : one / 2 < 2 ^ (7 + power) * one :=
  calc one / 2 < one := Nat.div_lt_self positive (by decide)
    _ ≤ 2 ^ (7 + power) * one := Nat.le_mul_of_pos_left _ (Nat.two_pow_pos _)

private theorem half_within {power : Nat} (bound : 7 + power ≤ 1022) :
    (Double.ofRatio false Double.one 2).Within (2 + (7 + power)) :=
  Double.ofRatio_within bound (half_lt Double.one_pos)

private theorem add_real (x y : Double) : (Number.real x).add (.real y) = .ok (.real (x.add y)) := rfl

theorem div_eq_ok {visited total power : Nat} (bound : 7 + power ≤ 1022)
    (most : visited ≤ total * 2 ^ power) : ∃ share,
      (Number.int (visited * 100)).div (.int total) = .ok (.real share) ∧
      share.Within (2 + (7 + power)) := by
  have positive : decide ((visited * 100 : Int) < 0) = false := by
    simp only [decide_eq_false_iff_not]
    omega
  have positiveTotal : decide ((total : Int) < 0) = false := by
    simp only [decide_eq_false_iff_not]
    omega
  have size : (visited * 100 : Int).natAbs = visited * 100 := by omega
  have within := Double.ofRatio_within bound (share_lt Double.one_pos most)
  refine ⟨_, ?_, within⟩
  obtain ⟨units, fits, share, _⟩ := within
  rw [Number.div, positive, positiveTotal, size, bne_self_eq_false, Int.natAbs_natCast, share]
  rfl

/-- Rounding to whole percent only fails for visits past all reason. -/
theorem percent_eq_ok {visited total power : Nat} (bound : power ≤ 1000)
    (most : visited ≤ total * 2 ^ power) :
    ∃ percentage, percent visited (.int total) = .ok percentage := by
  have enough : 7 + power ≤ 1022 := by omega
  obtain ⟨share, divided, within⟩ := div_eq_ok enough most
  obtain ⟨whole, truncated⟩ := (within.add (by omega) (half_within enough)).truncate
  refine ⟨whole, bind_eq_ok.mpr ⟨_, divided, bind_eq_ok.mpr ⟨_, add_real _ _, ?_⟩⟩⟩
  dsimp only
  rw [truncated]
  rfl

theorem percentOf_eq_ok {visited total power : Nat} (bound : power ≤ 1000)
    (most : visited ≤ total * 2 ^ power) :
    ∃ percentage, percentOf visited (.int total) = .ok percentage := by
  unfold percentOf
  dsimp only [Value.countable?, Value.number?]
  split
  · exact percent_eq_ok bound most
  · exact ⟨0, rfl⟩

theorem percent_eq_error {visited total : Nat} {fault : Fault}
    (failed : percent visited (.int total) = .error fault) : fault = .tooLarge := by
  rw [percent] at failed
  rcases bind_eq_error.mp failed with undivided | ⟨share, divided, failed⟩
  · rcases Number.div_cases (visited * 100) total with large | ⟨_, same⟩
    · rw [large] at undivided
      cases undivided
      rfl
    · rw [same] at undivided
      cases undivided
  · rcases Number.div_cases (visited * 100) total with large | ⟨_, same⟩
    · rw [large] at divided
      cases divided
    · rw [same] at divided
      cases divided
      rw [add_real] at failed
      rcases bind_eq_error.mp failed with ⟨⟨⟩⟩ | ⟨_, ⟨⟩, failed⟩
      dsimp only at failed
      split at failed
      · cases failed
      · cases failed
        rfl

theorem percentOf_eq_error {visited total : Nat} {fault : Fault}
    (failed : percentOf visited (.int total) = .error fault) : fault = .tooLarge := by
  unfold percentOf at failed
  dsimp only [Value.countable?, Value.number?] at failed
  split at failed
  · exact percent_eq_error failed
  · cases failed

end Progress
end Gamebook
