import Gamebook.Proofs.Effect.Altering
import Gamebook.Proofs.Failing
import Gamebook.Proofs.Number.Clashing

/-!
What can break a batch of effects off. On a state that validation accepts an effect is refused in
many ways, which the batch survives; the only fault there is comes of a refusal that cannot be put
into words, because a number in it has too many digits to be written.
-/
namespace Gamebook

/-- Numbers wherever effects calculate with what they find, and durations that can be counted
down. -/
structure GameState.Contents.Countable (contents : GameState.Contents) : Prop where
  stats : ∀ entry ∈ contents.stats, ∃ number : Number, entry.2 = number.toValue
  wallets : ∀ entry ∈ contents.wallets, ∃ number : Number, entry.2 = number.toValue
  inventory : ∀ entry ∈ contents.inventory, ∃ number : Number, entry.2 = number.toValue
  durations : ∀ effect ∈ contents.effects, effect.Lasts 0

theorem GameState.Contents.Valid.countable {contents : GameState.Contents} (valid : contents.Valid) :
    contents.Countable := by
  have numeric {least : Int} {value : Value} (accepted : value.isAtLeast least = .ok true) :
      ∃ number : Number, value = number.toValue := by
    obtain ⟨⟨number, same, _⟩, _⟩ := Value.isAtLeast_eq_ok.mp accepted
    exact ⟨number, same⟩
  constructor
  case stats => exact fun entry member => numeric (valid.stats entry member)
  case wallets => exact fun entry member => numeric (valid.wallets entry member)
  case inventory => exact fun entry member => numeric (valid.inventory entry member)
  case durations => exact fun effect member => StatusEffect.lasts_of_check (valid.durations effect member)

/-- An effect that is refused, whether or not the refusal can be put into words. -/
inductive Failure.IsEffectRefusal : Failure → Prop
  | worded (problem : EffectProblem) : IsEffectRefusal (.effect problem)
  | unworded : IsEffectRefusal (.fault .badValue)

namespace Effect
open Failure (IsEffectRefusal)

theorem refuse_fails {α : Type} (problem : EffectProblem) :
    FailsBy IsEffectRefusal (refuse problem : Outcome α) := failsBy_error (.worded problem)

theorem refuseResult_fails {α : Type} (problem : String → Value → Value → EffectProblem)
    (operation : Operation) (current amount : Value) :
    FailsBy IsEffectRefusal (refuseResult problem operation current amount : Outcome α) := by
  unfold refuseResult
  split
  · exact refuse_fails _
  · exact failsBy_error .unworded

theorem settle_eq_error {context : String} {x : Double} {failure : Failure}
    (failed : settle context x = .error failure) : ∃ problem, failure = .effect problem := by
  unfold settle at failed
  split at failed
  · cases failed
  · split at failed
    · cases failed
    · cases failed
      exact ⟨_, rfl⟩

theorem amountOf_eq_error {context : String} {value : Value} {failure : Failure}
    (failed : amountOf context value = .error failure) : ∃ problem, failure = .effect problem := by
  unfold amountOf at failed
  split at failed
  · cases failed
    exact ⟨_, rfl⟩
  · cases failed
  · exact settle_eq_error failed
  · dsimp only at failed
    split at failed
    · cases failed
    · exact settle_eq_error failed
    · cases failed
      exact ⟨_, rfl⟩
  · cases failed
    exact ⟨_, rfl⟩

theorem amountOf_fails (context : String) (value : Value) :
    FailsBy IsEffectRefusal (amountOf context value) := by
  intro failure failed
  obtain ⟨problem, rfl⟩ := amountOf_eq_error failed
  exact .worded problem

theorem apply_eq_error {operation : Operation} {current amount : Number} {fault : Fault}
    (failed : operation.apply current.toValue amount.toValue = .error fault) : fault = .tooLarge := by
  have calculated {exact : Int → Int → Int} {rounded : Double → Double → Double}
      (failed : Value.calculate (Number.lift exact rounded) current.toValue amount.toValue =
        .error fault) : fault = .tooLarge := by
    have numbers : Value.calculate (Number.lift exact rounded) current.toValue amount.toValue =
        Number.lift exact rounded current amount >>= fun number => pure number.toValue := by
      cases current <;> cases amount <;> rfl
    rw [numbers] at failed
    rcases bind_eq_error.mp failed with broken | ⟨number, _, made⟩
    · exact (Number.lift_eq_error.mp broken).2
    · cases made
  cases operation with
  | add =>
    have plain : Operation.add.apply current.toValue amount.toValue =
        Value.calculate Number.add current.toValue amount.toValue := by
      cases current <;> cases amount <;> rfl
    exact calculated (plain ▸ failed)
  | subtract => exact calculated failed
  | set => cases failed
  | multiply =>
    have plain : Operation.multiply.apply current.toValue amount.toValue =
        Value.calculate Number.mul current.toValue amount.toValue := by
      cases current <;> cases amount <;> rfl
    exact calculated (plain ▸ failed)

theorem combine_fails (operation : Operation) (current amount : Number) :
    FailsBy IsEffectRefusal (combine operation current.toValue amount.toValue) := by
  unfold combine
  split
  · exact refuseResult_fails _ _ _ _
  · rename_i fault other failed
    exact absurd (apply_eq_error failed) (other ·)
  · split
    · exact failsBy_ok _
    · exact refuseResult_fails _ _ _ _
  · exact failsBy_ok _

/-- What numbers make can be rounded, unless it is not finite. -/
theorem nextWhole_fails (floor : Int) (operation : String) (current amount : Number) :
    FailsBy IsEffectRefusal (nextWhole floor operation current.toValue amount.toValue) := by
  refine failsBy_bind ?combined fun value combined => ?_
  case combined =>
    unfold combineNamed
    split
    · exact combine_fails _ current amount
    · exact refuse_fails _
  refine failsBy_bind ?rounded fun whole _ => failsBy_ok _
  obtain ⟨number, rfl⟩ : ∃ number : Number, value = number.toValue := by
    unfold combineNamed at combined
    split at combined
    · exact apply_numbers (by simp) (by simp) (combine_eq_ok combined).1
    · simp [refuse] at combined
  cases number with
  | int value => exact failsBy_ok _
  | real x =>
    simp only [Number.toValue, wholeOf]
    split
    · exact failsBy_ok _
    · exact refuse_fails _

theorem nextFlag_fails (flag operation : String) (current amount : Value) :
    FailsBy IsEffectRefusal (nextFlag flag operation current amount) := by
  unfold nextFlag
  split
  · exact refuse_fails _
  · exact failsBy_ok _
  · dsimp only
    split
    · split
      · exact refuse_fails _
      · exact failsBy_error .unworded
    · rename_i given
      split
      · split
        · exact refuse_fails _
        · exact failsBy_error .unworded
      · rename_i held
        obtain ⟨amount, found⟩ := Option.ne_none_iff_exists'.mp (by simpa using given)
        obtain ⟨current, found'⟩ := Option.ne_none_iff_exists'.mp (by simpa using held)
        rw [Value.number?_eq_some.mp found, Value.number?_eq_some.mp found']
        exact combine_fails _ current amount

theorem statusOf_fails (effect : EffectDef) : FailsBy IsEffectRefusal (statusOf effect) := by
  have refused (given : Value) : FailsBy IsEffectRefusal (refuseDuration given) := by
    unfold refuseDuration
    split
    · exact refuse_fails _
    · exact failsBy_error .unworded
  refine failsBy_bind (amountOf_fails _ _) fun value _ => ?_
  refine failsBy_bind ?duration fun duration _ => failsBy_bind ?source fun source _ => failsBy_ok _
  case duration =>
    unfold durationOf
    split
    · exact failsBy_ok _
    · split
      · exact refused _
      · exact failsBy_ok _
    · exact refused _
  case source =>
    unfold sourceOf
    split
    · exact failsBy_ok _
    · split
      · exact failsBy_ok _
      · exact failsBy_error .unworded

variable {contents : GameState.Contents}

/-- A missing entry counts as a number too. -/
theorem getD_number {dict : Dict}
    (numeric : ∀ entry ∈ dict, ∃ number : Number, entry.2 = number.toValue) (key : Value)
    (absent : Int) : ∃ current : Number, (dict.get? key).getD (.int absent) = current.toValue := by
  cases found : dict.get? key with
  | none => exact ⟨.int absent, rfl⟩
  | some value =>
    obtain ⟨entry, member, _, rfl⟩ := Assoc.mem_of_get? found
    exact numeric entry member

/-- Balances, quantities and stats are counted in one way. -/
private theorem counted_fails {dict : Dict}
    (numeric : ∀ entry ∈ dict, ∃ number : Number, entry.2 = number.toValue) (context : String)
    (effect : EffectDef) (absent floor : Int) (next : Dict → Value → GameState) :
    FailsBy IsEffectRefusal (do
      let amount ← amountOf context effect.value
      let held ← Fault.lift (Loose.known dict).get
      let current := (held.get? (.text effect.target)).getD (.int absent)
      let value ← nextWhole floor effect.operation current amount.toValue
      return next held value) := by
  obtain ⟨current, found⟩ := getD_number numeric (.text effect.target) absent
  refine failsBy_bind (amountOf_fails _ _) fun amount _ => ?_
  refine failsBy_bind (failsBy_ok dict) fun held same => ?_
  cases same
  refine failsBy_bind ?_ fun value _ => failsBy_ok _
  exact found ▸ nextWhole_fails floor effect.operation current amount

theorem walletOutcome_fails (countable : contents.Countable) (effect : EffectDef) :
    FailsBy IsEffectRefusal (walletOutcome effect contents.state) :=
  counted_fails countable.wallets _ effect 0 balanceFloor _

theorem inventoryOutcome_fails (countable : contents.Countable) (effect : EffectDef) :
    FailsBy IsEffectRefusal (inventoryOutcome effect contents.state) :=
  counted_fails countable.inventory _ effect 0 quantityFloor _

theorem statOutcome_fails (countable : contents.Countable) (effect : EffectDef) :
    FailsBy IsEffectRefusal (statOutcome effect contents.state) :=
  counted_fails countable.stats _ effect 10 statFloor _

theorem flagOutcome_fails (effect : EffectDef) :
    FailsBy IsEffectRefusal (flagOutcome effect contents.state) := by
  refine failsBy_bind (failsBy_ok contents.flags) fun flags _ => ?_
  exact failsBy_bind (nextFlag_fails _ _ _ _) fun value _ => failsBy_ok _

theorem statusOutcome_fails (effect : EffectDef) :
    FailsBy IsEffectRefusal (statusOutcome effect contents.state) := by
  have listed : FailsBy IsEffectRefusal (Fault.lift contents.state.statusEffects.entries) :=
    (Loose.entries_known contents.effects).symm ▸ failsBy_ok contents.effects
  have inflicted : FailsBy IsEffectRefusal (do
      let status ← statusOf effect
      let effects ← Fault.lift contents.state.statusEffects.entries
      return { contents.state with
        statusEffects := .known ((StatusEffect.upsert status effects).map .known) }) :=
    failsBy_bind (statusOf_fails effect) fun status _ => failsBy_bind listed fun _ _ => failsBy_ok _
  unfold statusOutcome
  split
  · exact failsBy_bind listed fun effects _ => failsBy_ok _
  · exact inflicted
  · exact inflicted
  · exact refuse_fails _

/-- Where there are numbers to calculate with, an effect takes hold or is refused. -/
theorem outcome_fails (countable : contents.Countable) (effect : EffectDef) :
    FailsBy IsEffectRefusal (outcome effect contents.state) := by
  unfold outcome
  split
  · rename_i target _
    refine failsBy_bind ?_ fun next _ => failsBy_ok _
    cases target with
    | wallet => exact walletOutcome_fails countable effect
    | inventory => exact inventoryOutcome_fails countable effect
    | stat => exact statOutcome_fails countable effect
    | flag => exact flagOutcome_fails effect
    | status => exact statusOutcome_fails effect
  · exact failsBy_ok none

theorem Alters.countable {effect : EffectDef} {after : GameState.Contents}
    (alters : Alters effect contents after) (countable : contents.Countable) : after.Countable := by
  cases alters with
  | intro wallets inventory stats flags effects balances quantities scores marks statuses =>
    have written {least : Int} {table next : Dict}
        (rewritten : table.Rewritten effect.target (Value.IsWhole least) next)
        (numeric : ∀ entry ∈ table, ∃ number : Number, entry.2 = number.toValue) :
        ∀ entry ∈ next, ∃ number : Number, entry.2 = number.toValue := by
      refine rewritten.values (∃ number : Number, · = number.toValue) numeric ?_
      rintro _ ⟨whole, rfl, _⟩
      exact ⟨.int whole, rfl⟩
    exact {
      stats := written scores countable.stats
      wallets := written balances countable.wallets
      inventory := written quantities countable.inventory
      durations :=
        statuses.members (·.Lasts 0) countable.durations fun _ made => (statusOf_lasts made).2 }

/-- However a batch ends, what is left can be calculated with, and its turns can be counted down. -/
theorem run_countable (countable : contents.Countable) (effects : List EffectDef) :
    ∃ changed : GameState.Contents, (run contents.state effects).state = changed.state ∧
      changed.Countable := by
  obtain ⟨changed, reached, batch⟩ := (run_changes contents.state effects).altered
  refine ⟨changed, reached, batch.keep (·.Countable) ?_ countable⟩
  intro effect _ before next countable alters
  exact alters.countable countable

/-- Nothing breaks a batch off but a refusal that cannot be put into words. -/
theorem run_broken (countable : contents.Countable) {effects : List EffectDef} {fault : Fault}
    (broken : (run contents.state effects).broken = some fault) : fault = .badValue := by
  induction effects generalizing contents with
  | nil => cases broken
  | cons effect effects ih =>
    rcases perform_cases effect contents.state with ⟨next, performed⟩ | skips | ⟨cause, failed⟩
    · rw [run_cons_applied performed] at broken
      obtain ⟨changed, rfl, alters⟩ := (perform_change performed).alters
      exact ih (alters.countable countable) broken
    · rw [run_cons_skipped skips] at broken
      exact ih countable broken
    · rw [run_cons_broken failed] at broken
      cases broken
      cases outcome_fails countable effect _ (perform_eq_error.mp failed).1
      rfl

theorem applyAll_broken (now : Timestamp) (effects : List EffectDef) (state : GameState) :
    (applyAll now effects state).broken = (run state effects).broken := by
  unfold applyAll
  dsimp only
  split <;> rfl

theorem passTurn_eq_ok {state : GameState} {effects : List StatusEffect}
    (affected : state.statusEffects = .known (effects.map .known))
    (lasts : ∀ effect ∈ effects, effect.Lasts 0) : ∃ final, passTurn state = .ok final := by
  obtain ⟨lasting, ticked⟩ := StatusEffect.tickAll_eq_ok fun effect inside => (lasts effect inside).timed
  unfold passTurn
  rw [affected]
  exact ⟨_, bind_eq_ok.mpr ⟨_, rfl, bind_eq_ok.mpr ⟨lasting, ticked, rfl⟩⟩⟩

end Effect
end Gamebook
