import Gamebook.Proofs.Failing
import Gamebook.State.Snapshot

/-!
Documents that are no states. They are refused for a field, unless a whole number in them is past all
doubles or too long to be shown, or their flags are nested too deep for a copy. Most parts can only be
refused, so they are known to fail in no way but those allowed as soon as all refusals are.
-/
namespace Gamebook

/-- A field that is not as it should be, or a number or a nesting that cannot be looked at. -/
inductive Failure.IsRefusal : Failure → Prop
  | field (name : String) (problem : StateProblem) : IsRefusal (.state name problem)
  | tooLarge : IsRefusal (.fault .tooLarge)
  | tooDeep : IsRefusal (.fault .tooDeep)
  | tooLong : IsRefusal (.fault .badValue)

open Failure (IsRefusal)

theorem Number.isFinite_eq_error {number : Number} {fault : Fault}
    (failed : number.isFinite = .error fault) : fault = .tooLarge := by
  cases number with
  | int whole =>
    simp only [isFinite] at failed
    cases fits : Double.ofInt? whole with
    | none =>
      rw [fits, Option.elim_none] at failed
      cases failed
      rfl
    | some x =>
      rw [fits, Option.elim_some] at failed
      cases failed
  | real x => cases failed

section
variable {allowed : Failure → Prop} (named : ∀ field problem, allowed (.state field problem))
include named

theorem failsBy_invalid {α : Type} (field : String) (problem : StateProblem) :
    FailsBy allowed (invalid field problem : Outcome α) :=
  failsBy_error (named field problem)

theorem failsBy_require (holds : Bool) (field : String) (problem : StateProblem) :
    FailsBy allowed (require holds field problem) := by
  unfold require
  split
  · exact failsBy_ok ()
  · exact failsBy_invalid named field problem

end

theorem failsBy_requireOf (holds : Bool) (shown : List Value) (field : String)
    (problem : StateProblem) : FailsBy IsRefusal (requireOf holds shown field problem) := by
  unfold requireOf
  split
  · exact failsBy_ok ()
  · split
    · exact failsBy_invalid .field field _
    · exact failsBy_error .tooLong

namespace Snapshot

section
variable {allowed : Failure → Prop} (named : ∀ field problem, allowed (.state field problem))
include named

theorem readText_fails (field : String) (value : Value) : FailsBy allowed (readText field value) :=
  failsBy_bind (failsBy_require named _ _ _) fun _ _ => failsBy_ok value

theorem readOptionalText_fails (field : String) (value : Value) :
    FailsBy allowed (readOptionalText field value) :=
  failsBy_bind (failsBy_require named _ _ _) fun _ _ => failsBy_ok value

theorem readTable_fails (field : String) (value : Value) :
    FailsBy allowed (readTable field value) := by
  unfold readTable
  split
  · exact failsBy_ok _
  · exact failsBy_ok _
  · exact failsBy_invalid named _ _

theorem readVisited_fails (value : Value) : FailsBy allowed (readVisited value) := by
  unfold readVisited
  split
  · exact failsBy_ok _
  · exact failsBy_bind (failsBy_require named _ _ _) fun _ _ => failsBy_ok _
  · exact failsBy_invalid named _ _

theorem readTimestamp_fails (field : String) (value : Value) :
    FailsBy allowed (readTimestamp field value) := by
  unfold readTimestamp
  split
  · split
    · exact failsBy_ok _
    · exact failsBy_invalid named _ _
  · exact failsBy_invalid named _ _

theorem readEntries_fails {α : Type} {field : String} {read : String → Table Value → Outcome α}
    (each : ∀ place fields, FailsBy allowed (read place fields)) (value : Value) :
    FailsBy allowed (readEntries field read value) := by
  unfold readEntries
  split
  · exact failsBy_ok _
  · refine failsBy_bind (failsBy_mapM fun item _ => ?_) fun entries _ => failsBy_ok _
    dsimp only
    split
    · exact failsBy_bind (each _ _) fun entry _ => failsBy_ok _
    · exact failsBy_invalid named _ _
  · exact failsBy_invalid named _ _

theorem readRecord_fails (place : String) (fields : Table Value) :
    FailsBy allowed (readRecord place fields) := by
  refine failsBy_bind (failsBy_require named _ _ _) fun _ _ => ?_
  refine failsBy_bind (failsBy_require named _ _ _) fun _ _ => ?_
  refine failsBy_bind (readText_fails named _ _) fun node _ => ?_
  exact failsBy_bind (readTimestamp_fails named _ _) fun time _ => failsBy_ok _

end

theorem readFlags_fails [Host] (field : String) (value : Value) :
    FailsBy IsRefusal (readFlags field value) := by
  refine failsBy_bind (readTable_fails .field field value) fun flags _ => ?_
  apply failsBy_lift_of
  intro fault failed
  unfold Loose.copied at failed
  split at failed
  · cases failed
  · cases failed
    exact .tooDeep

theorem isFiniteNumber_fails (value : Value) :
    FailsBy IsRefusal (Fault.lift (isFiniteNumber value)) := by
  apply failsBy_lift_of
  intro fault failed
  unfold isFiniteNumber at failed
  split at failed
  · rw [Number.isFinite_eq_error failed]
    exact .tooLarge
  · cases failed

theorem readEffect_fails (place : String) (fields : Table Value) :
    FailsBy IsRefusal (readEffect place fields) := by
  refine failsBy_bind (isFiniteNumber_fails _) fun finite _ => ?_
  refine failsBy_bind (failsBy_require .field _ _ _) fun _ _ => ?_
  refine failsBy_bind (failsBy_require .field _ _ _) fun _ _ => ?_
  refine failsBy_bind (readText_fails .field _ _) fun type _ => ?_
  exact failsBy_bind (readOptionalText_fails .field _ _) fun source _ => failsBy_ok _

theorem readFields_fails [Host] (fields : Table Value) : FailsBy IsRefusal (readFields fields) := by
  refine failsBy_bind (failsBy_requireOf _ _ _ _) fun _ _ => ?_
  refine failsBy_bind (readText_fails .field _ _) fun player _ => ?_
  refine failsBy_bind (readText_fails .field _ _) fun story _ => ?_
  refine failsBy_bind (readText_fails .field _ _) fun save _ => ?_
  refine failsBy_bind (readText_fails .field _ _) fun node _ => ?_
  refine failsBy_bind (readVisited_fails .field _) fun visits _ => ?_
  refine failsBy_bind (readEntries_fails .field (readRecord_fails .field) _) fun history _ => ?_
  refine failsBy_bind (readTable_fails .field _ _) fun stats _ => ?_
  refine failsBy_bind (readTable_fails .field _ _) fun wallets _ => ?_
  refine failsBy_bind (readTable_fails .field _ _) fun inventory _ => ?_
  refine failsBy_bind (readFlags_fails _ _) fun flags _ => ?_
  refine failsBy_bind (readEntries_fails .field readEffect_fails _) fun effects _ => ?_
  refine failsBy_bind (readTimestamp_fails .field _ _) fun created _ => ?_
  refine failsBy_bind (readTimestamp_fails .field _ _) fun updated _ => ?_
  exact failsBy_bind (readOptionalText_fails .field _ _) fun seed _ => failsBy_ok _

end Snapshot

namespace GameState

section
variable {allowed : Failure → Prop} (named : ∀ field problem, allowed (.state field problem))
include named

theorem wellShaped_fails {α : Type} (field : String) (shape : Requirement) (entry : Loose α) :
    FailsBy allowed (wellShaped field shape entry) := by
  cases entry with
  | known value => exact failsBy_ok value
  | other value => exact failsBy_invalid named _ _

theorem checkEffects_fails (index : Nat) (entries : List (Loose StatusEffect)) :
    FailsBy allowed (checkEffects index entries) := by
  induction entries generalizing index with
  | nil => exact failsBy_ok ()
  | cons entry entries ih =>
    cases entry with
    | other value => exact failsBy_invalid named _ _
    | known effect =>
      refine failsBy_bind (failsBy_require named _ _ _) fun _ _ => ?_
      exact failsBy_bind (failsBy_require named _ _ _) fun _ _ => ih (index + 1)

theorem checkHistory_fails (index : Nat) (entries : List (Loose ChoiceRecord)) :
    FailsBy allowed (checkHistory index entries) := by
  induction entries generalizing index with
  | nil => exact failsBy_ok ()
  | cons entry entries ih =>
    cases entry with
    | other value => exact failsBy_invalid named _ _
    | known record => exact ih (index + 1)

theorem checkTimestamp_fails (field : String) (entry : Loose Timestamp) :
    FailsBy allowed (checkTimestamp field entry) := by
  cases entry with
  | known time => exact failsBy_ok ()
  | other value => exact failsBy_invalid named _ _

end

theorem checkTable_fails (field : String) (least : Int) (problem : Value → StateProblem)
    (table : Dict) : FailsBy IsRefusal (checkTable field least problem table) := by
  induction table with
  | nil => exact failsBy_ok ()
  | cons entry table ih =>
    refine failsBy_bind (failsBy_lift_of ?_) fun holds _ => ?_
    · intro fault failed
      unfold Value.isAtLeast at failed
      split at failed
      · rename_i number _
        cases measured : number.isFinite with
        | error other =>
          rw [measured] at failed
          cases failed
          rw [Number.isFinite_eq_error measured]
          exact .tooLarge
        | ok finite =>
          rw [measured] at failed
          cases failed
      · cases failed
    · exact failsBy_bind (failsBy_requireOf _ _ _ _) fun _ _ => ih

theorem validate_fails (state : GameState) : FailsBy IsRefusal state.validate := by
  refine failsBy_bind ?identity fun _ _ => ?contents
  case identity =>
    refine failsBy_bind (failsBy_require .field _ _ _) fun _ _ => ?_
    refine failsBy_bind (failsBy_require .field _ _ _) fun _ _ => ?_
    exact failsBy_bind (failsBy_require .field _ _ _) fun _ _ => failsBy_require .field _ _ _
  case contents =>
    refine failsBy_bind (wellShaped_fails .field _ _ _) fun visits _ => ?_
    refine failsBy_bind (wellShaped_fails .field _ _ _) fun history _ => ?_
    refine failsBy_bind (wellShaped_fails .field _ _ _) fun effects _ => ?_
    refine failsBy_bind (wellShaped_fails .field _ _ _) fun stats _ => ?_
    refine failsBy_bind (wellShaped_fails .field _ _ _) fun wallets _ => ?_
    refine failsBy_bind (wellShaped_fails .field _ _ _) fun inventory _ => ?_
    refine failsBy_bind (wellShaped_fails .field _ _ _) fun flags _ => ?_
    refine failsBy_bind (checkTable_fails _ _ _ stats) fun _ _ => ?_
    refine failsBy_bind (checkTable_fails _ _ _ wallets) fun _ _ => ?_
    refine failsBy_bind (checkTable_fails _ _ _ inventory) fun _ _ => ?_
    refine failsBy_bind (checkEffects_fails .field _ effects) fun _ _ => ?_
    refine failsBy_bind (checkHistory_fails .field _ history) fun _ _ => ?_
    refine failsBy_bind (checkTimestamp_fails .field _ _) fun _ _ => ?_
    exact failsBy_bind (checkTimestamp_fails .field _ _) fun _ _ => failsBy_require .field _ _ _

end GameState

theorem Snapshot.restore_fails [Host] (document : Value) : FailsBy IsRefusal (restore document) := by
  unfold restore
  split
  · exact failsBy_invalid .field _ _
  · refine failsBy_bind (readFields_fails _) fun state _ => ?_
    exact failsBy_bind (GameState.validate_fails state) fun _ _ => failsBy_ok state

end Gamebook
