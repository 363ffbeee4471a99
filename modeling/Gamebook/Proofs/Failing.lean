import Gamebook.Play.Transition
import Gamebook.Proofs.Outcome

/-!
The ways in which computations can fail: those of a sequence are those of its parts.
-/
namespace Gamebook

/-- Fails in no other way than those allowed. -/
def FailsBy {α : Type} (allowed : Failure → Prop) (outcome : Outcome α) : Prop :=
  ∀ failure, outcome = .error failure → allowed failure

/-- Fails in no other way than those allowed, whatever was drawn before. -/
def DrawsBy {σ α : Type} (allowed : Failure → Prop) (drawing : Drawing σ α) : Prop :=
  ∀ before failure after, drawing before = .error failure after → allowed failure

section
variable {σ α β : Type} {allowed : Failure → Prop}

theorem failsBy_ok (value : α) : FailsBy allowed (.ok value) := by
  intro failure failed
  cases failed

theorem failsBy_error {failure : Failure} (fine : allowed failure) :
    FailsBy allowed (.error failure : Outcome α) := by
  rintro _ ⟨⟩
  exact fine

theorem failsBy_showing {value : Value} {failure : Failure} (fine : allowed failure)
    (long : allowed (.fault .badValue)) : FailsBy allowed (Failure.showing value failure : Outcome α) := by
  unfold Failure.showing
  split
  · exact failsBy_error fine
  · exact failsBy_error long

theorem failsBy_bind {first : Outcome α} {next : α → Outcome β} (head : FailsBy allowed first)
    (rest : ∀ value, first = .ok value → FailsBy allowed (next value)) :
    FailsBy allowed (first >>= next) := by
  cases first with
  | error failure => exact failsBy_error (head failure rfl)
  | ok value => exact rest value rfl

theorem failsBy_lift {computation : Except Fault α} (fine : ∀ fault, allowed (.fault fault)) :
    FailsBy allowed (Fault.lift computation) := by
  cases computation with
  | error fault => exact failsBy_error (fine fault)
  | ok value => exact failsBy_ok value

theorem failsBy_lift_of {computation : Except Fault α}
    (fine : ∀ fault, computation = .error fault → allowed (.fault fault)) :
    FailsBy allowed (Fault.lift computation) := by
  cases computation with
  | error fault => exact failsBy_error (fine fault rfl)
  | ok value => exact failsBy_ok value

theorem failsBy_mapM {read : α → Outcome β} {items : List α}
    (each : ∀ item ∈ items, FailsBy allowed (read item)) : FailsBy allowed (items.mapM read) := by
  induction items with
  | nil => exact failsBy_ok []
  | cons item items ih =>
    rw [List.mapM_cons]
    refine failsBy_bind (each item (.head _)) fun first _ => ?_
    refine failsBy_bind (ih fun other member => each other (.tail _ member)) fun rest _ => ?_
    exact failsBy_ok _

theorem drawsBy_pure (value : α) : DrawsBy allowed (pure value : Drawing σ α) := by
  intro before failure after failed
  cases failed

theorem drawsBy_throw {failure : Failure} (fine : allowed failure) :
    DrawsBy allowed (throw failure : Drawing σ α) := by
  rintro _ _ _ ⟨⟩
  exact fine

theorem drawsBy_lift {outcome : Outcome α} (fails : FailsBy allowed outcome) :
    DrawsBy allowed (liftExcept outcome : Drawing σ α) := by
  cases outcome with
  | error failure => exact drawsBy_throw (fails failure rfl)
  | ok value => exact drawsBy_pure value

theorem drawsBy_bind {first : Drawing σ α} {next : α → Drawing σ β} (head : DrawsBy allowed first)
    (rest : ∀ before value between, first before = .ok value between → DrawsBy allowed (next value)) :
    DrawsBy allowed (first >>= next) := by
  intro before failure after failed
  change EStateM.bind first next before = .error failure after at failed
  unfold EStateM.bind at failed
  split at failed
  · rename_i value between drawn
    exact rest before value between drawn _ _ _ failed
  · rename_i problem between broken
    cases failed
    exact head before failure after broken

end
end Gamebook
