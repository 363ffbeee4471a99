import Gamebook.Proofs.Play.Gating
import Gamebook.Proofs.Play.Preview

/-!
Checking an index is a dry run of the gate. Whatever the check reports, taking the choice comes to,
for the same reason and in the same words, as long as the seed of the state can be used.
-/
namespace Gamebook

/-- The refusals of an index that names no choice: for want of a node, or of the choice on it. -/
inductive Failure.IsUnnamed (place index : Value) : Failure → Prop
  | node : IsUnnamed place index (.notFound .node place)
  | choice (node : String) (count : Nat) : IsUnnamed place index (.noSuchChoice node index count)

/-- What a verdict gives as its reason for locked choices. -/
def lockedReason : String := "Conditions not met"

theorem Failure.IsUnnamed.message_ne {place index : Value} {failure : Failure}
    (unnamed : failure.IsUnnamed place index) : failure.message ≠ lockedReason := by
  intro same
  -- The messages part from the reason in their first letters.
  cases unnamed with
  | node =>
    have told : message (.notFound .node place) = "Node" ++ " not found: " ++ place.asText := rfl
    have letters := congrArg String.toList (told.symm.trans same)
    rw [String.append_assoc, String.toList_append] at letters
    cases letters
  | choice node count =>
    have told : message (.noSuchChoice node index count) = "Choice index " ++ index.asText ++
      " is invalid for node '" ++ node ++ "' (" ++ toString count ++ " choices available)." := rfl
    have letters := congrArg String.toList (told.symm.trans same)
    simp only [String.append_assoc] at letters
    rw [String.toList_append] at letters
    cases letters

namespace Navigator
variable {σ : Type} {navigator : Navigator} {generator : Generator σ} {now : Timestamp}
  {state : GameState} {index : Value} {failure : Failure} {selection : Selection}

theorem select_fails : FailsBy
    (fun failure => failure.IsUnnamed state.currentNodeId index ∨ ∃ fault, failure = .fault fault)
    (navigator.select state index) := by
  refine failsBy_bind ?_ fun node _ => ?_
  · unfold currentNode Navigator.node
    split
    · split
      · exact failsBy_ok _
      · exact failsBy_showing (.inl .node) (.inr ⟨_, rfl⟩)
    · exact failsBy_error (.inr ⟨_, rfl⟩)
  · rcases choiceAt_cases node index with ⟨selection, chosen⟩ | ⟨count, refused⟩
    · rw [chosen]
      exact failsBy_ok _
    · rw [refused]
      exact failsBy_showing (.inl (.choice ..)) (.inr ⟨_, rfl⟩)

/-- Behind the gate, only a target can be missing. -/
theorem FailsBehind.missing [Host] {kind : Named} {key : Value}
    (fails : navigator.FailsBehind now state selection (.notFound kind key)) :
    navigator.node (.text selection.choice.target) = .error (.notFound kind key) := by
  cases fails with
  | target absent => exact node_text_eq_error.mpr ⟨absent, rfl⟩
  | roll target before after requirement leads required rollable refused =>
    have readable : FailsBy Failure.IsOther (DiceFormula.ofText requirement.formulaText) :=
      DiceFormula.ofText_fails (fun _ _ _ => nofun) (fun _ _ _ => nofun) (fun _ _ _ => nofun) _
    have other : FailsBy Failure.IsOther (requirement.verdict state.stats) :=
      RollRequirement.verdict_fails (fun _ _ _ => nofun) (fun _ _ _ => nofun) readable _
    exact absurd rfl (other _ refused kind key)

/-- A missing target is another node than the current one, which is there. -/
theorem FailsBehind.not_unnamed [Host] (fails : navigator.FailsBehind now state selection failure)
    (gated : navigator.gate state index = .ok selection) :
    ¬ failure.IsUnnamed state.currentNodeId index := by
  intro unnamed
  cases unnamed with
  | choice node count => exact fails.not_refusal (.noChoice ..)
  | node =>
    obtain ⟨node, here, _⟩ := gate_eq_ok gated
    have gone := fails.missing
    obtain ⟨_, same⟩ := node_text_eq_error.mp gone
    injection same with _ same
    rw [← same] at gone
    cases here.symm.trans gone

/-- What a check reports, beside what it is that the gate does. -/
inductive Judges (navigator : Navigator) (state : GameState) (index : Value) :
    Outcome Verdict → Outcome Selection → Prop
  | unnamed {failure : Failure} (unnamed : failure.IsUnnamed state.currentNodeId index) :
      Judges navigator state index (.ok (.impossible failure)) (.error failure)
  | broken (fault : Fault) :
      Judges navigator state index (.error (.fault fault)) (.error (.fault fault))
  | locked {selection : Selection} {failed : List FailedCondition}
      (selected : navigator.select state index = .ok selection)
      (rejected : failed =
        Condition.rejected navigator.predicates selection.choice.conditions state) :
      Judges navigator state index (.ok (.locked failed))
        (.error (.conditionsNotMet selection.node.id selection.index failed))
  | valid {selection : Selection} (selected : navigator.select state index = .ok selection)
      (passes : Condition.passesAll navigator.predicates selection.choice.conditions state =
        .ok true) : Judges navigator state index (.ok .valid) (.ok selection)

theorem validate_judges :
    navigator.Judges state index (navigator.validate state index) (navigator.gate state index) := by
  cases selected : navigator.select state index with
  | error failure =>
    have gated : navigator.gate state index = .error failure :=
      gate_eq_error_iff.mpr (.inl selected)
    rw [gated]
    unfold validate
    rw [selected]
    rcases select_fails failure selected with unnamed | ⟨fault, rfl⟩
    · cases unnamed with
      | node => exact .unnamed .node
      | choice node count => exact .unnamed (.choice node count)
    · exact .broken fault
  | ok selection =>
    have judged : navigator.validate state index = (do
        let availability ← navigator.availability selection.choice state
        return if availability.available then .valid else .locked availability.failed) := by
      unfold validate
      rw [selected]
    have gated : navigator.gate state index = (do
        let availability ← navigator.availability selection.choice state
        if availability.available then return selection
        else throw (.conditionsNotMet selection.node.id selection.index availability.failed)) := by
      unfold gate
      rw [selected]
      rfl
    rw [judged, gated]
    cases checked : navigator.availability selection.choice state with
    | error failure =>
      obtain ⟨_, fault, rfl, _⟩ := availability_eq_error_iff.mp checked
      exact .broken fault
    | ok availability =>
      have found := Fault.lift_eq_ok.mp checked
      have passes := Condition.passesAll_eq_ok found
      change Judges _ _ _
        (.ok (if availability.available then .valid else .locked availability.failed))
        (if availability.available then .ok selection else .error _)
      cases opened : availability.available with
      | true => exact .valid selected (opened ▸ passes)
      | false => exact .locked selected (Condition.availability_eq_ok found).2

theorem gate_of_passes (selected : navigator.select state index = .ok selection)
    (passes : Condition.passesAll navigator.predicates selection.choice.conditions state =
      .ok true) :
    navigator.gate state index = .ok selection := by
  refine gate_eq_ok_iff.mpr ⟨selected, ?_⟩
  obtain ⟨availability, checked, opened⟩ := Condition.availability_of_passesAll passes
  exact ⟨availability, Fault.lift_eq_ok.mpr checked, opened⟩

/-- What a check reports, beside what a call with a usable seed comes to. -/
inductive Meets [Host] (navigator : Navigator) (now : Timestamp) (state : GameState) (index : Value) :
    Outcome Verdict → EStateM.Result Failure σ Transition → Prop
  | unnamed {failure : Failure} (after : σ) (stopped : navigator.gate state index = .error failure)
      (unnamed : failure.IsUnnamed state.currentNodeId index) :
      Meets navigator now state index (.ok (.impossible failure)) (.error failure after)
  | broken {fault : Fault} (after : σ)
      (stopped : navigator.gate state index = .error (.fault fault)) :
      Meets navigator now state index (.error (.fault fault)) (.error (.fault fault) after)
  | locked {selection : Selection} {failure : Failure} {failed : List FailedCondition} (after : σ)
      (stopped : navigator.gate state index = .error failure)
      (selected : navigator.select state index = .ok selection)
      (found : failure = .conditionsNotMet selection.node.id selection.index failed)
      (rejected : failed =
        Condition.rejected navigator.predicates selection.choice.conditions state) :
      Meets navigator now state index (.ok (.locked failed)) (.error failure after)
  | taken (transition : Transition) (after : σ) :
      Meets navigator now state index (.ok .valid) (.ok transition after)
  | behind {selection : Selection} {failure : Failure} (after : σ)
      (selected : navigator.select state index = .ok selection)
      (passes : Condition.passesAll navigator.predicates selection.choice.conditions state =
        .ok true)
      (fails : navigator.FailsBehind now state selection failure) :
      Meets navigator now state index (.ok .valid) (.error failure after)

theorem validate_meets [Host] {dice : σ} (returns : generator.Returns dice) {seed : Option Seed}
    (seeded : nextSeed? state = .ok seed) : navigator.Meets now state index
      (navigator.validate state index) (navigator.makeChoice generator now state index dice) := by
  have judges : navigator.Judges state index (navigator.validate state index)
      (navigator.gate state index) := validate_judges
  generalize navigator.validate state index = report at judges
  cases gated : navigator.gate state index with
  | error failure =>
    have foretold : navigator.foretellChoice now state index = .error failure :=
      foretellChoice_eq_error.mpr (.inr ⟨⟨seed, seeded⟩, .inl gated⟩)
    obtain ⟨after, failed⟩ := (makeChoice_eq_error returns).mpr foretold
    rw [gated] at judges
    rw [failed]
    cases judges with
    | unnamed unnamed => exact .unnamed after gated unnamed
    | broken fault => exact .broken after gated
    | locked selected rejected => exact .locked after gated selected rfl rejected
  | ok selection =>
    rw [gated] at judges
    cases judges with
    | valid selected passes =>
      cases made : navigator.makeChoice generator now state index dice with
      | ok transition after => exact .taken transition after
      | error failure after =>
        rcases foretellChoice_eq_error.mp ((makeChoice_eq_error returns).mp ⟨after, made⟩) with
          ⟨fault, unseeded, _⟩ | ⟨_, stopped | ⟨_, same, fails⟩⟩
        · cases seeded.symm.trans unseeded
        · cases gated.symm.trans stopped
        · obtain rfl := Except.ok.inj (gated.symm.trans same)
          exact .behind after selected passes fails

/-- A report on an index says exactly what taking the choice comes to at the gate. -/
structure Foresees [Host] (navigator : Navigator) (now : Timestamp) (state : GameState)
    (index : Value)
    (report : Outcome Verdict) (made : EStateM.Result Failure σ Transition) : Prop where
  /-- Other reasons than that of locked choices are the texts of refusals for want of a choice. -/
  unnamed : ∀ text, text ≠ lockedReason →
    ((∃ verdict, report = .ok verdict ∧ verdict.isValid = false ∧ verdict.reason? = some text) ↔
      ∃ failure after, made = .error failure after ∧
        failure.IsUnnamed state.currentNodeId index ∧ failure.message = text)
  locked : ∀ failed, (∃ verdict, report = .ok verdict ∧ verdict.isValid = false ∧
      verdict.reason? = some lockedReason ∧ verdict.failed = failed) ↔
    ∃ node place after, made = .error (.conditionsNotMet node place failed) after
  /-- The conditions that are named are those that the state does not meet by themselves. -/
  rejected : ∀ node place failed after, made = .error (.conditionsNotMet node place failed) after →
    ∃ selection, navigator.select state index = .ok selection ∧ node = selection.node.id ∧
      place = selection.index ∧
      failed = Condition.rejected navigator.predicates selection.choice.conditions state
  valid : report = .ok .valid ↔ (∃ transition after, made = .ok transition after) ∨
    ∃ selection failure after, navigator.select state index = .ok selection ∧
      Condition.passesAll navigator.predicates selection.choice.conditions state = .ok true ∧
      made = .error failure after ∧ navigator.FailsBehind now state selection failure
  /-- What cannot even be checked fails in the same way when it is tried. -/
  broken : ∀ failure, report = .error failure → ∃ fault after, failure = .fault fault ∧
    made = .error failure after

section
variable [Host] {report : Outcome Verdict} {made : EStateM.Result Failure σ Transition}
  (meets : navigator.Meets now state index report made)

include meets

theorem Meets.unnamed_iff {text : String} (other : text ≠ lockedReason) :
    (∃ verdict, report = .ok verdict ∧ verdict.isValid = false ∧ verdict.reason? = some text) ↔
      ∃ failure after, made = .error failure after ∧
        failure.IsUnnamed state.currentNodeId index ∧ failure.message = text := by
  constructor
  · rintro ⟨verdict, rfl, invalid, told⟩
    cases meets with
    | unnamed after stopped unnamed => exact ⟨_, after, rfl, unnamed, Option.some.inj told⟩
    | locked => exact absurd (Option.some.inj told).symm other
    | taken => cases invalid
    | behind => cases invalid
  · rintro ⟨failure, after, rfl, unnamed, rfl⟩
    cases meets with
    | unnamed => exact ⟨_, rfl, rfl, rfl⟩
    | broken => cases unnamed
    | locked after stopped selected found => cases found ▸ unnamed
    | behind after selected passes fails =>
      exact absurd unnamed (fails.not_unnamed (gate_of_passes selected passes))

theorem Meets.locked_iff {failed : List FailedCondition} :
    (∃ verdict, report = .ok verdict ∧ verdict.isValid = false ∧
        verdict.reason? = some lockedReason ∧ verdict.failed = failed) ↔
      ∃ node place after, made = .error (.conditionsNotMet node place failed) after := by
  constructor
  · rintro ⟨verdict, rfl, invalid, told, rfl⟩
    cases meets with
    | unnamed after stopped unnamed => exact absurd (Option.some.inj told) unnamed.message_ne
    | locked after stopped selected found =>
      subst found
      exact ⟨_, _, after, rfl⟩
    | taken => cases invalid
    | behind => cases invalid
  · rintro ⟨node, place, after, rfl⟩
    cases meets with
    | unnamed after stopped unnamed => cases unnamed
    | locked after stopped selected found =>
      cases found
      exact ⟨_, rfl, rfl, rfl, rfl⟩
    | behind after selected passes fails => exact absurd (.locked ..) fails.not_refusal

theorem Meets.valid_iff : report = .ok .valid ↔ (∃ transition after, made = .ok transition after) ∨
    ∃ selection failure after, navigator.select state index = .ok selection ∧
      Condition.passesAll navigator.predicates selection.choice.conditions state = .ok true ∧
      made = .error failure after ∧ navigator.FailsBehind now state selection failure := by
  constructor
  · rintro rfl
    cases meets with
    | taken transition after => exact .inl ⟨transition, after, rfl⟩
    | behind after selected passes fails =>
      exact .inr ⟨_, _, after, selected, passes, rfl, fails⟩
  · rintro (⟨transition, after, rfl⟩ | ⟨selection, failure, after, selected, passes, rfl, fails⟩)
    · cases meets
      rfl
    · have opened := gate_of_passes selected passes
      cases meets with
      | unnamed after stopped => cases stopped.symm.trans opened
      | broken after stopped => cases stopped.symm.trans opened
      | locked after stopped => cases stopped.symm.trans opened
      | behind => rfl

theorem Meets.foresees : navigator.Foresees now state index report made where
  unnamed text other := meets.unnamed_iff other
  locked failed := meets.locked_iff
  valid := meets.valid_iff
  rejected node place failed after locked := by
    subst locked
    cases meets with
    | unnamed after stopped unnamed => cases unnamed
    | locked after stopped selected found rejected =>
      cases found
      exact ⟨_, selected, rfl, rfl, rejected⟩
    | behind after selected passes fails => exact absurd (.locked ..) fails.not_refusal
  broken failure broken := by
    subst broken
    cases meets with
    | broken after stopped => exact ⟨_, after, rfl, rfl⟩

end

/-- Checking an index is an exact dry run of the gate wherever the seed of the state can be used. A
seed that cannot is a fault of every call, whatever the check reports. -/
theorem validate_foresees [Host] (navigator : Navigator) {dice : σ} (returns : generator.Returns dice)
    (now : Timestamp) (state : GameState) (index : Value) :
    (∀ fault, nextSeed? state = .error fault → ∃ after,
      navigator.makeChoice generator now state index dice = .error (.fault fault) after) ∧
    ((∃ seed, nextSeed? state = .ok seed) → navigator.Foresees now state index
      (navigator.validate state index) (navigator.makeChoice generator now state index dice)) := by
  constructor
  · intro fault unseeded
    refine (makeChoice_eq_error returns).mpr ?_
    exact foretellChoice_eq_error.mpr (.inl ⟨fault, unseeded, rfl⟩)
  · rintro ⟨seed, seeded⟩
    exact (validate_meets returns seeded).foresees

/-- Whether a report finds just the first condition of a choice not met. -/
def findsFirst : Outcome Verdict → Bool
  | .ok (.locked [failed]) => failed.index == 0
  | _ => false

open scoped Host in
theorem validate_foresees_atDoor :
    let navigator := Story.Lighthouse.navigator
    let dice := RandomSource.ofSeed (.number 1)
    let state := atDoor (.text "tide")
    RandomSource.generator.Returns dice ∧ (∃ seed, nextSeed? state = .ok seed) ∧
      ∃ failed, failed.index = 0 ∧ navigator.validate state (.int 2) = .ok (.locked [failed]) ∧
        ∃ node place after, navigator.makeChoice RandomSource.generator Story.Lighthouse.morning
          state (.int 2) dice = .error (.conditionsNotMet node place [failed]) after := by
  intro navigator dice state
  have returns : RandomSource.generator.Returns dice := RandomSource.returns_ofSeed _
  have seeded := ok_of_isOk (show (nextSeed? state).isOk = true by decide +kernel)
  have found : findsFirst (navigator.validate state (.int 2)) = true := by decide +kernel
  have foresees :=
    (validate_foresees navigator returns Story.Lighthouse.morning state (.int 2)).2 seeded
  unfold findsFirst at found
  split at found
  · rename_i failed report
    refine ⟨returns, seeded, failed, by simpa using found, report, ?_⟩
    exact (foresees.locked [failed]).mp ⟨.locked [failed], report, rfl, rfl, rfl⟩
  · cases found

end Navigator
end Gamebook
