import Gamebook.Effect.Apply
import Gamebook.Proofs.Value.Number

/-!
What the arithmetic of effects can give. Whatever the current value is, a balance, a quantity or a
stat that an effect writes is a whole number at its floor or above; what arithmetic makes of a flag
is a finite number.
-/
namespace Gamebook

namespace Effect

theorem settle_settled {context : String} {x : Double} {amount : Number}
    (ok : settle context x = .ok amount) : amount.Settled := by
  unfold settle at ok
  split at ok
  · cases ok
    trivial
  · split at ok
    · rename_i finite
      cases ok
      exact finite
    · simp [refuse] at ok

theorem amountOf_settled {context : String} {value : Value} {amount : Number}
    (ok : amountOf context value = .ok amount) : amount.Settled := by
  unfold amountOf at ok
  split at ok
  · simp [refuse] at ok
  · cases ok
    trivial
  · exact settle_settled ok
  · dsimp only at ok
    split at ok
    · cases ok
      trivial
    · exact settle_settled ok
    · simp [refuse] at ok
  · simp [refuse] at ok

theorem calculate_eq_ok {operation : Number → Number → Except Fault Number} {a b result : Value}
    (ok : Value.calculate operation a b = .ok result) : ∃ number : Number, result = number.toValue := by
  unfold Value.calculate at ok
  split at ok
  · obtain ⟨number, _, rest⟩ := bind_eq_ok.mp ok
    exact ⟨number, (pure_eq_ok.mp rest).symm⟩
  · cases ok

theorem repeatedText_eq_ok {content : String} {count : Int} {result : Value}
    (ok : Value.repeatedText content count = .ok result) : ∃ longer, result = .text longer := by
  unfold Value.repeatedText at ok
  split at ok
  · cases ok
  · obtain ⟨letters, _, rest⟩ := bind_eq_ok.mp ok
    exact ⟨_, (pure_eq_ok.mp rest).symm⟩

/-- A number can only make numbers, or longer texts and lists. -/
theorem apply_shape {operation : Operation} {current result : Value} {amount : Number}
    (ok : operation.apply current amount.toValue = .ok result) :
    (∃ number : Number, result = number.toValue) ∨ (∃ content, result = .text content) ∨
      ∃ items, result = .list items := by
  cases operation with
  | add =>
    simp only [Operation.apply, Value.add] at ok
    split at ok
    · cases ok
      exact .inr (.inl ⟨_, rfl⟩)
    · cases ok
      exact .inr (.inr ⟨_, rfl⟩)
    · exact .inl (calculate_eq_ok ok)
  | subtract => exact .inl (calculate_eq_ok ok)
  | set =>
    cases ok
    exact .inl ⟨amount, rfl⟩
  | multiply =>
    simp only [Operation.apply, Value.mul] at ok
    split at ok
    · exact .inr (.inl (repeatedText_eq_ok ok))
    · exact .inr (.inl (repeatedText_eq_ok ok))
    · obtain ⟨items, _, rest⟩ := bind_eq_ok.mp ok
      exact .inr (.inr ⟨items, (pure_eq_ok.mp rest).symm⟩)
    · obtain ⟨items, _, rest⟩ := bind_eq_ok.mp ok
      exact .inr (.inr ⟨items, (pure_eq_ok.mp rest).symm⟩)
    · exact .inl (calculate_eq_ok ok)

theorem apply_numbers {operation : Operation} {current amount result : Value}
    (currentNumber : current.number?.isSome) (amountNumber : amount.number?.isSome)
    (ok : operation.apply current amount = .ok result) :
    ∃ number : Number, result = number.toValue := by
  cases operation with
  | add =>
    simp only [Operation.apply, Value.add] at ok
    split at ok
    · simp [Value.number?] at currentNumber
    · simp [Value.number?] at currentNumber
    · exact calculate_eq_ok ok
  | subtract => exact calculate_eq_ok ok
  | set =>
    cases ok
    cases amount with
    | int value => exact ⟨.int value, rfl⟩
    | real x => exact ⟨.real x, rfl⟩
    | _ => simp [Value.number?] at amountNumber
  | multiply =>
    simp only [Operation.apply, Value.mul] at ok
    split at ok
    · simp [Value.number?] at currentNumber
    · simp [Value.number?] at amountNumber
    · simp [Value.number?] at currentNumber
    · simp [Value.number?] at amountNumber
    · exact calculate_eq_ok ok

/-- The result of an operation is that of its arithmetic, and finite if it is a real. -/
theorem combine_eq_ok {operation : Operation} {current amount result : Value}
    (ok : combine operation current amount = .ok result) :
    operation.apply current amount = .ok result ∧ ∀ x, result = .real x → x.isFinite = true := by
  unfold combine at ok
  split at ok
  · simp only [refuseResult] at ok
    split at ok <;> simp [refuse] at ok
  · cases ok
  · rename_i x applied
    split at ok
    · rename_i finite
      cases ok
      exact ⟨applied, fun _ same => by cases same; exact finite⟩
    · simp only [refuseResult] at ok
      split at ok <;> simp [refuse] at ok
  · rename_i value notReal applied
    cases ok
    exact ⟨applied, fun x same => absurd same (notReal x)⟩

theorem settled_of_finite {number : Number}
    (finite : ∀ x, number.toValue = .real x → x.isFinite = true) : number.Settled := by
  cases number with
  | int value => trivial
  | real x => exact finite x rfl

theorem raise_int (floor whole : Int) :
    ∃ raised : Int, raise floor (.int whole) = .int raised ∧ floor ≤ raised := by
  simp only [raise, Value.whole?, Value.countable?, Value.number?]
  split
  · exact ⟨whole, rfl, by omega⟩
  · exact ⟨floor, rfl, by omega⟩

/-- Whatever the current value is, what comes next is a whole number at the floor or above. -/
theorem nextWhole_eq_ok {floor : Int} {operation : String} {current result : Value}
    {amount : Number} (ok : nextWhole floor operation current amount.toValue = .ok result) :
    ∃ whole : Int, result = .int whole ∧ floor ≤ whole := by
  obtain ⟨combined, combining, rest⟩ := bind_eq_ok.mp ok
  obtain ⟨whole, rounding, raising⟩ := bind_eq_ok.mp rest
  obtain rfl := pure_eq_ok.mp raising
  unfold combineNamed at combining
  split at combining
  · obtain ⟨number, rfl⟩ | ⟨content, rfl⟩ | ⟨items, rfl⟩ := apply_shape (combine_eq_ok combining).1
    · cases number with
      | int value =>
        cases rounding
        exact raise_int floor value
      | real x =>
        simp only [Number.toValue, wholeOf] at rounding
        split at rounding
        · cases rounding
          exact raise_int floor _
        · simp [refuse] at rounding
    · cases rounding
    · cases rounding
  · simp [refuse] at combining

/-- A flag holds what it was set to, or the finite number that arithmetic made of it. -/
theorem nextFlag_eq_ok {flag operation : String} {current amount result : Value}
    (ok : nextFlag flag operation current amount = .ok result) :
    result = amount ∨ ∃ number : Number, result = number.toValue ∧ number.Settled := by
  unfold nextFlag at ok
  split at ok
  · simp [refuse] at ok
  · cases ok
    exact .inl rfl
  · rename_i arithmetic _ _
    dsimp only at ok
    split at ok
    · split at ok <;> simp [refuse] at ok
    · rename_i given
      split at ok
      · split at ok <;> simp [refuse] at ok
      · rename_i held
        obtain ⟨applied, finite⟩ := combine_eq_ok ok
        obtain ⟨number, rfl⟩ := apply_numbers (Option.isSome_iff_ne_none.mpr (by simpa using held))
          (Option.isSome_iff_ne_none.mpr (by simpa using given)) applied
        exact .inr ⟨number, rfl, settled_of_finite finite⟩

end Effect
end Gamebook
