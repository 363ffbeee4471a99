import Gamebook.Proofs.Effect.Breaking
import Mathlib.Data.List.TakeWhile

/-!
Batches without the effects that did not take hold. What is refused or unknown leaves no trace, so
the effects that a batch reports do by themselves all that the batch did.
-/
namespace Gamebook

namespace EffectDef

/-- Every effect is one that a document declares, so documents stand for effects of either form. -/
theorem ofValue_toValue (effect : EffectDef) : ofValue effect.toValue = .ok effect := by
  obtain ⟨type, target, operation, value, metadata⟩ := effect
  cases metadata <;> rfl

end EffectDef

namespace Effect
variable {state : GameState}

theorem run_applied_again (state : GameState) (effects : List EffectDef) :
    run state (run state effects).applied =
      ⟨(run state effects).state, (run state effects).applied, none⟩ := by
  induction effects generalizing state with
  | nil => rfl
  | cons effect effects ih =>
    rcases perform_cases effect state with ⟨next, performed⟩ | skips | ⟨fault, broken⟩
    · rw [run_cons_applied performed, run_cons_applied performed, ih]
    · rw [run_cons_skipped skips, ih]
    · rw [run_cons_broken broken]
      rfl

/-- What runs through leaves the rest to run on from where it ends. -/
theorem run_append {before : List EffectDef} (whole : (run state before).broken = none)
    (after : List EffectDef) : run state (before ++ after) =
      { run (run state before).state after with
        applied := (run state before).applied ++ (run (run state before).state after).applied } := by
  induction before generalizing state with
  | nil => rfl
  | cons first before ih =>
    rcases perform_cases first state with ⟨next, performed⟩ | skips | ⟨fault, broken⟩
    · rw [run_cons_applied performed] at whole
      rw [List.cons_append, run_cons_applied performed, run_cons_applied performed, ih whole]
      rfl
    · rw [run_cons_skipped skips] at whole
      rw [List.cons_append, run_cons_skipped skips, run_cons_skipped skips, ih whole]
    · rw [run_cons_broken broken] at whole
      cases whole

theorem run_append_broken {before : List EffectDef} {fault : Fault}
    (broken : (run state before).broken = some fault) (after : List EffectDef) :
    run state (before ++ after) = run state before := by
  induction before generalizing state with
  | nil => cases broken
  | cons first before ih =>
    rcases perform_cases first state with ⟨next, performed⟩ | skips | ⟨fault, failed⟩
    · rw [run_cons_applied performed] at broken
      rw [List.cons_append, run_cons_applied performed, run_cons_applied performed, ih broken]
    · rw [run_cons_skipped skips] at broken
      rw [List.cons_append, run_cons_skipped skips, run_cons_skipped skips, ih broken]
    · rw [List.cons_append, run_cons_broken failed, run_cons_broken failed]

theorem run_without (state : GameState) (before : List EffectDef) (effect : EffectDef)
    (after : List EffectDef) (reached : (run state before).broken = none)
    (skips : Skips effect (run state before).state) :
    run state (before ++ effect :: after) = run state (before ++ after) := by
  rw [run_append reached, run_cons_skipped skips, ← run_append reached]

/-- What a batch reports explains what it did: some of its effects in their order, which run through
by themselves and lead from the same state to the same state, its stamp aside. -/
structure Explains (later : Timestamp) (state : GameState) (effects : List EffectDef)
    (batch : Batch) : Prop where
  within : batch.applied.Sublist effects
  whole : (applyAll later batch.applied state).broken = none
  again : (applyAll later batch.applied state).applied = batch.applied
  same : { (applyAll later batch.applied state).state with updatedAt := batch.state.updatedAt } =
    batch.state

theorem explains_of_run {effects : List EffectDef} {batch : Batch} {stamp : Loose Timestamp}
    (later : Timestamp) (applied : batch.applied = (run state effects).applied)
    (left : batch.state = { (run state effects).state with updatedAt := stamp }) :
    Explains later state effects batch := by
  have again := run_applied_again state effects
  obtain ⟨last, stamped, reported⟩ := applyAll_state later batch.applied state
  rw [applied, again] at stamped reported
  refine ⟨applied ▸ run_applied state effects, ?_, ?_, ?_⟩
  · rw [applyAll_broken, applied, again]
  · rw [applied, reported]
  · rw [applied, stamped, left]

theorem effects_of_documents (read : List (Except Fault EffectDef)) :
    ((read.takeWhile Except.isOk).filterMap Except.toOption).map .ok = read.takeWhile Except.isOk := by
  induction read with
  | nil => rfl
  | cons first read ih =>
    cases first with
    | error fault => rfl
    | ok effect => exact congrArg (Except.ok effect :: ·) ih

theorem applyDocuments_eq {now : Timestamp} {documents : List Value} {effects : List EffectDef}
    (read : documents.map EffectDef.ofValue = effects.map .ok) (state : GameState) :
    applyDocuments now documents state = applyAll now effects state := by
  have fine : ∀ result ∈ effects.map (.ok : EffectDef → Except Fault EffectDef),
      result.isOk = true := by
    intro result member
    obtain ⟨effect, _, rfl⟩ := List.mem_map.mp member
    rfl
  have none : (effects.map (.ok : EffectDef → Except Fault EffectDef)).find? (!·.isOk) = none := by
    simpa using fine
  have kept : (effects.map (.ok : EffectDef → Except Fault EffectDef)).filterMap
      Except.toOption = effects := by
    simp [List.filterMap_map, Function.comp_def, Except.toOption]
  unfold applyDocuments
  rw [read]
  dsimp only
  rw [none, List.takeWhile_eq_self_iff.mpr fine, kept]

/-- An effect that is refused or unknown leaves the state as it was. So what took hold in a batch
does by itself all that the batch did, whether the effects are given as such or as documents; the
others leave no trace, wherever they stand. -/
theorem applied_explains (now later : Timestamp) (state : GameState) :
    (∀ effect before, (∀ failure left, perform effect before = .error failure left → left = before) ∧
      ∀ left, perform effect before = .ok false left → left = before) ∧
    (∀ effects, Explains later state effects (applyAll now effects state)) ∧
    (∀ documents, ∃ effects, effects.map .ok <+: documents.map EffectDef.ofValue ∧
      ((applyDocuments now documents state).broken = none →
        effects.map .ok = documents.map EffectDef.ofValue) ∧
      Explains later state effects (applyDocuments now documents state)) ∧
    (∀ effects, applyDocuments now (effects.map EffectDef.toValue) state =
      applyAll now effects state) ∧
    ∀ before effect after, (run state before).broken = none →
      Skips effect (run state before).state →
      run state (before ++ [effect]) = run state before ∧
      run state (before ++ effect :: after) = run state (before ++ after) := by
  refine ⟨fun _ _ => perform_spares, fun effects => ?_, fun documents => ?_, fun effects => ?_,
    fun before effect after reached skips => ?_⟩
  · obtain ⟨stamp, left, applied⟩ := applyAll_state now effects state
    exact explains_of_run later applied left
  · have read := effects_of_documents (documents.map EffectDef.ofValue)
    refine ⟨_, read ▸ List.takeWhile_prefix _, ?_⟩
    unfold applyDocuments
    dsimp only
    cases unread : (documents.map EffectDef.ofValue).find? (!·.isOk) with
    | none =>
      obtain ⟨stamp, left, applied⟩ := applyAll_state now _ state
      refine ⟨fun _ => read.trans (List.takeWhile_eq_self_iff.mpr ?_), explains_of_run later applied left⟩
      simpa using List.find?_eq_none.mp unread
    | some result =>
      cases result with
      | error fault => exact ⟨nofun, explains_of_run later rfl rfl⟩
      | ok effect => cases List.find?_some unread
  · have read : effects.map (EffectDef.ofValue ∘ EffectDef.toValue) = effects.map .ok :=
      List.map_congr_left fun effect _ => effect.ofValue_toValue
    exact applyDocuments_eq (List.map_map.trans read) state
  · exact ⟨by simpa using run_without state before effect [] reached skips,
      run_without state before effect after reached skips⟩

end Effect
end Gamebook
