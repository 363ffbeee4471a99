import Gamebook.Proofs.Outcome
import Gamebook.State.Snapshot

/-!
Values that are numbers. Whole numbers are finite whatever their size, but only those that a double
can hold are accepted where a finite number has to be found.
-/
namespace Gamebook

/-- Finite, as all whole numbers are. -/
def Number.Settled : Number → Prop
  | .int _ => True
  | .real x => x.isFinite = true

namespace Value

@[simp] theorem number?_toValue (number : Number) : number.toValue.number? = some number := by
  cases number <;> rfl

theorem number?_eq_some {value : Value} {number : Number} :
    value.number? = some number ↔ value = number.toValue := by
  cases number <;> cases value <;> simp [number?, Number.toValue]

/-- A finite number. -/
def IsFinite (value : Value) : Prop := ∃ number : Number, value = number.toValue ∧ number.Settled

/-- A finite number that is at least `least`. -/
def Reaches (least : Int) (value : Value) : Prop :=
  ∃ number : Number, value = number.toValue ∧ number.Settled ∧ (Number.int least).le number = true

/-- Not a whole number past all doubles. -/
def Sized (value : Value) : Prop := ∀ whole, value = .int whole → (Double.ofInt? whole).isSome = true

theorem isFinite_eq_ok {number : Number} {answer : Bool} : number.isFinite = .ok answer ↔
    number.toValue.Sized ∧ (answer = true ↔ number.Settled) := by
  cases number with
  | int whole =>
    rw [Number.isFinite]
    have sized : (Number.int whole).toValue.Sized ↔ (Double.ofInt? whole).isSome = true := by
      constructor
      · exact fun sized => sized whole rfl
      · rintro fits _ ⟨⟩
        exact fits
    rw [sized]
    cases Double.ofInt? whole with
    | none => simp
    | some x => simp [Number.Settled, eq_comm]
  | real x =>
    have sized : (Number.real x).toValue.Sized := by rintro _ ⟨⟩
    simp only [Number.isFinite, Except.ok.injEq, Number.Settled, sized, true_and]
    exact ⟨fun same => by rw [same], fun same => by rw [Bool.eq_iff_iff, same]⟩

theorem isAtLeast_eq_ok {least : Int} {value : Value} :
    value.isAtLeast least = .ok true ↔ value.Reaches least ∧ value.Sized := by
  unfold isAtLeast
  constructor
  · intro ok
    split at ok
    · rename_i number found
      obtain ⟨finite, measured, rest⟩ := bind_eq_ok.mp ok
      have both := pure_eq_ok.mp rest
      rw [Bool.and_eq_true] at both
      obtain rfl := number?_eq_some.mp found
      obtain ⟨sized, settled⟩ := isFinite_eq_ok.mp measured
      exact ⟨⟨number, rfl, settled.mp both.1, both.2⟩, sized⟩
    · cases ok
  · rintro ⟨⟨number, rfl, settled, bound⟩, sized⟩
    rw [number?_toValue]
    exact bind_eq_ok.mpr ⟨true, isFinite_eq_ok.mpr ⟨sized, by simp [settled]⟩, by simp [bound, pure_eq_ok]⟩

theorem isFiniteNumber_eq_ok {value : Value} :
    Snapshot.isFiniteNumber value = .ok true ↔ value.IsFinite ∧ value.Sized := by
  unfold Snapshot.isFiniteNumber
  constructor
  · intro ok
    split at ok
    · rename_i number found
      obtain rfl := number?_eq_some.mp found
      obtain ⟨sized, settled⟩ := isFinite_eq_ok.mp ok
      exact ⟨⟨number, rfl, settled.mp rfl⟩, sized⟩
    · cases ok
  · rintro ⟨⟨number, rfl, settled⟩, sized⟩
    rw [number?_toValue]
    exact isFinite_eq_ok.mpr ⟨sized, by simp [settled]⟩

end Value

theorem Number.le_int {least value : Int} : (int least).le (int value) = true ↔ least ≤ value := by
  rw [Int.le_iff_lt_or_eq]
  simp [le, lt, eq, compare?, Int.compare_eq_lt]

theorem Value.reaches_int {least value : Int} (bound : least ≤ value) : (int value).Reaches least :=
  ⟨.int value, rfl, trivial, Number.le_int.mpr bound⟩

end Gamebook
