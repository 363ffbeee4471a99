import Gamebook.Number.Basic
import Gamebook.Proofs.Number.Overflowing
import Gamebook.Proofs.Outcome

/-!
What arithmetic cannot do. Whole numbers are exact among themselves, so what stops arithmetic is a
whole number past all doubles where a double takes part or has to come out, or an endless dividend.
-/
namespace Gamebook.Number

/-- A whole number past all doubles. -/
def Endless : Number → Prop
  | .int value => Double.endless ≤ value.natAbs
  | .real _ => False

/-- A whole number past all doubles beside a double. -/
def Clash : Number → Number → Prop
  | .int value, .real _ | .real _, .int value => Double.endless ≤ value.natAbs
  | _, _ => False

section
variable {a b : Number} {fault : Fault}

theorem toDouble_eq_error : a.toDouble = .error fault ↔ a.Endless ∧ fault = .tooLarge := by
  cases a with
  | real x => exact iff_of_false (by rintro ⟨⟩) fun endless => endless.1.elim
  | int value =>
    rw [toDouble, Endless, ← Double.ofInt?_eq_none]
    cases Double.ofInt? value with
    | some x => exact iff_of_false (by rintro ⟨⟩) (by rintro ⟨⟨⟩, _⟩)
    | none => simp [eq_comm]

theorem lift_eq_error {exact : Int → Int → Int} {rounded : Double → Double → Double} :
    lift exact rounded a b = .error fault ↔ a.Clash b ∧ fault = .tooLarge := by
  cases a with
  | int value =>
    cases b with
    | int other => exact iff_of_false (by rintro ⟨⟩) fun clash => clash.1.elim
    | real x =>
      have made : lift exact rounded (.int value) (.real x) =
          (int value).toDouble >>= fun y => pure (real (rounded y x)) := rfl
      rw [made, bind_pure_eq_error, toDouble_eq_error, Endless, Clash]
  | real x =>
    cases b with
    | int value =>
      have made : lift exact rounded (.real x) (.int value) =
          (int value).toDouble >>= fun y => pure (real (rounded x y)) := by
        rw [lift]
        · cases (int value).toDouble <;> rfl
        · rintro _ _ ⟨⟩
      rw [made, bind_pure_eq_error, toDouble_eq_error, Endless, Clash]
    | real y => exact iff_of_false (by rintro ⟨⟩) fun clash => clash.1.elim

theorem foldlM_lift_eq_error {exact : Int → Int → Int} {rounded : Double → Double → Double}
    {initial : Number} {numbers : List Number} :
    numbers.foldlM (lift exact rounded) initial = .error fault ↔
      fault = .tooLarge ∧ ∃ before number after total, numbers = before ++ number :: after ∧
        before.foldlM (lift exact rounded) initial = .ok total ∧ total.Clash number := by
  simp only [foldlM_eq_error, lift_eq_error]
  constructor
  · rintro ⟨before, number, after, total, same, made, clash, rfl⟩
    exact ⟨rfl, before, number, after, total, same, made, clash⟩
  · rintro ⟨rfl, before, number, after, total, same, made, clash⟩
    exact ⟨before, number, after, total, same, made, clash, rfl⟩

theorem ofRounded_eq_error {x : Double} :
    ofRounded x = .error fault ↔ (∃ negative, x = .infinite negative) ∧ fault = .tooLarge := by
  cases x with
  | infinite negative => simp [ofRounded, eq_comm]
  | _ => exact iff_of_false (by rintro ⟨⟩) (by rintro ⟨⟨_, ⟨⟩⟩, _⟩)

theorem div_int_eq_error {m n : Int} (nonzero : n ≠ 0) : (int m).div (int n) = .error fault ↔
    Double.endless * n.natAbs ≤ m.natAbs ∧ fault = .tooLarge := by
  rw [div, ofRounded_eq_error]
  simp only [Double.ofRatio_eq_infinite (Int.natAbs_pos.mpr nonzero), exists_eq_left']

-- A quotient with a double in it is made like every other result with a double in it.
theorem div_eq_lift (mixed : ¬ ∃ m n, a = int m ∧ b = int n) :
    a.div b = lift (· / ·) Double.div a b := by
  cases a with
  | int m =>
    cases b with
    | int n => exact absurd ⟨m, n, rfl, rfl⟩ mixed
    | real y => rfl
  | real x => cases b <;> rfl

theorem toDouble_int_eq_ok {value : Int} {x : Double} :
    (int value).toDouble = .ok x ↔ Double.ofInt? value = some x := by
  rw [toDouble]
  cases Double.ofInt? value <;> simp

theorem not_endless_of_toDouble {x : Double} (held : a.toDouble = .ok x) : ¬ a.Endless := by
  intro endless
  rw [toDouble_eq_error.mpr ⟨endless, rfl⟩] at held
  cases held

/-- The double of a number is zero, infinite or no number only if the number is. -/
theorem toDouble_kind {x : Double} (held : a.toDouble = .ok x) : (x.isZero = true → a.isZero = true) ∧
    x.isNaN = a.isNaN ∧ ((∃ negative, x = .infinite negative) ↔
      ∃ negative, a = real (.infinite negative)) := by
  cases a with
  | real y =>
    cases held
    exact ⟨id, rfl, by simp⟩
  | int value =>
    have found := toDouble_int_eq_ok.mp held
    have finite := Double.isFinite_of_ofInt? found
    refine ⟨fun zero => by simp [isZero, Double.isZero_of_ofInt? found zero], ?_⟩
    cases x with
    | finite negative units fits =>
      exact ⟨rfl, iff_of_false (by rintro ⟨_, ⟨⟩⟩) (by rintro ⟨_, ⟨⟩⟩)⟩
    | _ => cases finite

end

theorem rem?_eq_none {x y : Double} (nonzero : y.isZero = false) :
    x.rem? y = none ↔ (∃ negative, x = .infinite negative) ∧ y.isNaN = false := by
  cases x <;> cases y <;> simp_all [Double.rem?, Double.isNaN, Double.isZero]

theorem rem_of_toDouble {a b : Number} {x y : Double} (first : a.toDouble = .ok x)
    (second : b.toDouble = .ok y) : a.rem b = (x.rem? y).elim (.error .badValue) (.ok ∘ real) := by
  rw [rem, first, second]
  cases rest : x.rem? y <;> simp [bind, Except.bind, rest] <;> rfl

theorem rem_eq_error {a b : Number} {fault : Fault} (nonzero : b.isZero = false) :
    a.rem b = .error fault ↔ (a.Endless ∨ b.Endless) ∧ fault = .tooLarge ∨
      ¬ b.Endless ∧ b.isNaN = false ∧ (∃ negative, a = real (.infinite negative)) ∧
        fault = .badValue := by
  cases first : a.toDouble with
  | error other =>
    obtain ⟨endless, rfl⟩ := toDouble_eq_error.mp first
    rw [rem, first]
    constructor
    · rintro ⟨⟩
      exact .inl ⟨.inl endless, rfl⟩
    · rintro (⟨_, rfl⟩ | ⟨_, _, ⟨negative, rfl⟩, _⟩)
      · rfl
      · exact endless.elim
  | ok x =>
    have fits := not_endless_of_toDouble first
    cases second : b.toDouble with
    | error other =>
      obtain ⟨endless, rfl⟩ := toDouble_eq_error.mp second
      rw [rem, first, second]
      constructor
      · rintro ⟨⟩
        exact .inl ⟨.inr endless, rfl⟩
      · rintro (⟨_, rfl⟩ | ⟨narrow, _⟩)
        · rfl
        · exact absurd endless narrow
    | ok y =>
      have narrow := not_endless_of_toDouble second
      have neither : ¬ (a.Endless ∨ b.Endless) := not_or.mpr ⟨fits, narrow⟩
      obtain ⟨zero, number, _⟩ := toDouble_kind second
      have divides : y.isZero = false :=
        Bool.eq_false_iff.mpr fun none => Bool.false_ne_true (nonzero.symm.trans (zero none))
      have left := @rem?_eq_none x y divides
      rw [number, (toDouble_kind first).2.2] at left
      rw [rem_of_toDouble first second]
      cases rest : x.rem? y with
      | none =>
        obtain ⟨infinite, counts⟩ := left.mp rest
        constructor
        · rintro ⟨⟩
          exact .inr ⟨narrow, counts, infinite, rfl⟩
        · rintro (⟨endless, _⟩ | ⟨_, _, _, rfl⟩)
          · exact absurd endless neither
          · rfl
      | some z =>
        refine ⟨by rintro ⟨⟩, ?_⟩
        rintro (⟨endless, _⟩ | ⟨_, counts, infinite, _⟩)
        · exact absurd endless neither
        · rw [left.mpr ⟨infinite, counts⟩] at rest
          cases rest

end Gamebook.Number
