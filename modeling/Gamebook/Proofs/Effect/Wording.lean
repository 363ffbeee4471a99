import Gamebook.Proofs.Effect.Editing
import Gamebook.Proofs.Effect.Skipping
import Gamebook.Proofs.State.Storable

/-!
Refusals that cannot be put into words. A batch survives every effect that is refused, unless a
number that the refusal would have to show has too many digits to be written.
-/
namespace Gamebook.Effect
open GameState (Contents)

/-- A calculation whose result is out of range, on a value or by a value too long to be shown. -/
structure Lost (operation : Operation) (current amount : Value) : Prop where
  beyond : operation.apply current amount = .error .tooLarge ∨
    ∃ x, operation.apply current amount = .ok (.real x) ∧ x.isFinite = false
  long : current.isWritable = false ∨ amount.isWritable = false

/-- What is counted of a kind of which there is nothing yet; flags and status effects are not
counted. -/
def Target.absent? : Target → Option Value
  | .wallet => some defaultBalance
  | .inventory => some defaultQuantity
  | .stat => some defaultStat
  | .flag | .status => none

/-- A duration that effects cannot have. -/
def Unfit (given : Value) : Prop := given ≠ .null ∧ ∀ turns : Int, given = .int turns → turns < 0

/-- An effect on an entry whose refusal would have to show a value that is too long. -/
inductive Wordless (effect : EffectDef) (found : Option Value) : Target → Prop
  | count {kind : Target} {absent : Value} {operation : Operation} {amount : Number}
      (counted : kind.absent? = some absent) (named : effect.operation = operation.name)
      (read : amountOf effect.target effect.value = .ok amount)
      (lost : Lost operation (found.getD absent) amount.toValue) : Wordless effect found kind
  | amount {operation : Operation} (named : effect.operation = operation.name)
      (arithmetic : operation ≠ .set) (other : effect.value.number? = none)
      (long : effect.value.isWritable = false) : Wordless effect found .flag
  | held {operation : Operation} {current : Value} (named : effect.operation = operation.name)
      (arithmetic : operation ≠ .set) (number : effect.value.number?.isSome)
      (holds : (found.getD .null).present? = some current) (other : current.number? = none)
      (long : current.isWritable = false) : Wordless effect found .flag
  | flag {operation : Operation} {current : Value} (named : effect.operation = operation.name)
      (arithmetic : operation ≠ .set) (number : effect.value.number?.isSome)
      (holds : (found.getD .null).present?.getD (.int 0) = current) (number' : current.number?.isSome)
      (lost : Lost operation current effect.value) : Wordless effect found .flag
  | duration {operation : Operation} {amount : Number}
      (named : effect.operation = operation.name) (lasting : operation = .add ∨ operation = .set)
      (read : amountOf effect.target effect.value = .ok amount)
      (unfit : Unfit (Value.field effect.metadata "duration"))
      (long : (Value.field effect.metadata "duration").isWritable = false) :
      Wordless effect found .status
  | source {operation : Operation} {amount : Number}
      (named : effect.operation = operation.name) (lasting : operation = .add ∨ operation = .set)
      (read : amountOf effect.target effect.value = .ok amount)
      (fit : ¬ Unfit (Value.field effect.metadata "duration"))
      (long : (Value.field effect.metadata "source").isWritable = false) :
      Wordless effect found .status

theorem Operation.ofName?_eq_some {name : String} {operation : Operation} :
    Operation.ofName? name = some operation ↔ name = operation.name := by
  constructor
  · intro found
    exact (by simpa using List.find?_some found : operation.name = name).symm
  · rintro rfl
    cases operation <;> decide

theorem settle_ok_context {context other : String} {x : Double} {amount : Number} :
    settle context x = .ok amount ↔ settle other x = .ok amount := by
  unfold settle
  cases x.toInt? with
  | some value => rfl
  | none => cases x.isFinite <;> simp [refuse]

/-- Which amount is read does not depend on what it is read for. -/
theorem amountOf_ok_context {context other : String} {value : Value} {amount : Number} :
    amountOf context value = .ok amount ↔ amountOf other value = .ok amount := by
  cases value with
  | int value => rfl
  | real x => exact settle_ok_context
  | text text =>
    simp only [amountOf]
    split
    · rfl
    · exact settle_ok_context
    · simp [refuse]
  | _ => simp [amountOf, refuse]

theorem refuseResult_eq_badValue {α : Type} {problem : String → Value → Value → EffectProblem}
    {operation : Operation} {current amount : Value} :
    (refuseResult problem operation current amount : Outcome α) = .error (.fault .badValue) ↔
      current.isWritable = false ∨ amount.isWritable = false := by
  unfold refuseResult
  cases current.isWritable <;> cases amount.isWritable <;> simp [refuse]

theorem combine_eq_badValue {operation : Operation} {current amount : Number} :
    combine operation current.toValue amount.toValue = .error (.fault .badValue) ↔
      Lost operation current.toValue amount.toValue := by
  have lost_iff : Lost operation current.toValue amount.toValue ↔
      (operation.apply current.toValue amount.toValue = .error .tooLarge ∨
        ∃ x, operation.apply current.toValue amount.toValue = .ok (.real x) ∧ x.isFinite = false) ∧
      (current.toValue.isWritable = false ∨ amount.toValue.isWritable = false) :=
    ⟨fun lost => ⟨lost.beyond, lost.long⟩, fun both => ⟨both.1, both.2⟩⟩
  rw [lost_iff]
  unfold combine
  split
  · rename_i applied
    simp [applied, refuseResult_eq_badValue]
  · rename_i fault other applied
    exact absurd (apply_eq_error applied) other
  · rename_i x applied
    cases finite : x.isFinite <;> simp [applied, finite, refuseResult_eq_badValue]
  · rename_i value notReal applied
    simp only [applied, reduceCtorEq, false_or, Except.ok.injEq, false_iff, not_and, not_or]
    rintro ⟨x, same, _⟩
    exact absurd same (notReal x)

theorem combineNamed_eq_badValue {operation : String} {current amount : Number} :
    combineNamed operation current.toValue amount.toValue = .error (.fault .badValue) ↔
      ∃ arithmetic : Operation, operation = arithmetic.name ∧
        Lost arithmetic current.toValue amount.toValue := by
  unfold combineNamed
  split
  · rename_i arithmetic found
    have named := Operation.ofName?_eq_some.mp found
    rw [combine_eq_badValue]
    refine ⟨fun lost => ⟨arithmetic, named, lost⟩, ?_⟩
    rintro ⟨other, named', lost⟩
    rw [Operation.ofName?_eq_some.mpr named'] at found
    cases found
    exact lost
  · rename_i unknown
    refine ⟨nofun, ?_⟩
    rintro ⟨other, named, _⟩
    rw [Operation.ofName?_eq_some.mpr named] at unknown
    cases unknown

theorem wholeOf_ne_badValue (value : Value) : wholeOf value ≠ .error (.fault .badValue) := by
  cases value with
  | real x =>
    simp only [wholeOf]
    split <;> simp [refuse]
  | _ => simp [wholeOf]

theorem nextWhole_eq_badValue {floor : Int} {operation : String} {current amount : Number} :
    nextWhole floor operation current.toValue amount.toValue = .error (.fault .badValue) ↔
      ∃ arithmetic : Operation, operation = arithmetic.name ∧
        Lost arithmetic current.toValue amount.toValue := by
  rw [nextWhole, bind_eq_error, combineNamed_eq_badValue]
  refine or_iff_left ?_
  rintro ⟨value, _, failed⟩
  rcases bind_eq_error.mp failed with unrounded | ⟨whole, _, made⟩
  · exact wholeOf_ne_badValue value unrounded
  · cases made

theorem nextFlag_arithmetic {operation : Operation} (arithmetic : operation ≠ .set) (flag : String)
    (current amount : Value) : nextFlag flag operation.name current amount =
      if amount.number?.isNone then
        if amount.isWritable then refuse (.flagAmount operation.name flag amount)
        else .error (.fault .badValue)
      else if (current.present?.getD (.int 0)).number?.isNone then
        if (current.present?.getD (.int 0)).isWritable then
          refuse (.flagHolds operation.name flag (current.present?.getD (.int 0)))
        else .error (.fault .badValue)
      else combine operation (current.present?.getD (.int 0)) amount := by
  cases operation with
  | set => exact absurd rfl arithmetic
  | _ => rfl

section
variable {operation : Operation} (arithmetic : operation ≠ .set) {flag : String}
  {current amount : Value}
include arithmetic

theorem nextFlag_amount (other : amount.number? = none) :
    nextFlag flag operation.name current amount = .error (.fault .badValue) ↔
      amount.isWritable = false := by
  rw [nextFlag_arithmetic arithmetic]
  cases amount.isWritable <;> simp [other, refuse]

variable (number : amount.number?.isSome)
include number

theorem nextFlag_held (other : (current.present?.getD (.int 0)).number? = none) :
    nextFlag flag operation.name current amount = .error (.fault .badValue) ↔
      (current.present?.getD (.int 0)).isWritable = false := by
  obtain ⟨given, read⟩ := Option.isSome_iff_exists.mp number
  rw [nextFlag_arithmetic arithmetic]
  cases (current.present?.getD (.int 0)).isWritable <;> simp [read, other, refuse]

theorem nextFlag_numbers (number' : (current.present?.getD (.int 0)).number?.isSome) :
    nextFlag flag operation.name current amount = .error (.fault .badValue) ↔
      Lost operation (current.present?.getD (.int 0)) amount := by
  obtain ⟨given, read⟩ := Option.isSome_iff_exists.mp number
  obtain ⟨before, held⟩ := Option.isSome_iff_exists.mp number'
  rw [nextFlag_arithmetic arithmetic, read, held, Value.number?_eq_some.mp held,
    Value.number?_eq_some.mp read]
  exact combine_eq_badValue

end

variable {effect : EffectDef} {found : Option Value}

theorem nextFlag_eq_badValue :
    nextFlag effect.target effect.operation (found.getD .null) effect.value =
      .error (.fault .badValue) ↔ Wordless effect found .flag := by
  constructor
  · intro failed
    cases known : Operation.ofName? effect.operation with
    | none => simp [nextFlag, known, refuse] at failed
    | some operation =>
      have named := Operation.ofName?_eq_some.mp known
      by_cases set : operation = .set
      · simp [nextFlag, known, set] at failed
      rw [named] at failed
      cases read : effect.value.number? with
      | none => exact .amount named set read ((nextFlag_amount set read).mp failed)
      | some amount =>
        have number : effect.value.number?.isSome := by rw [read, Option.isSome_some]
        by_cases number' : ((found.getD .null).present?.getD (.int 0)).number?.isSome
        · exact .flag named set number rfl number' ((nextFlag_numbers set number number').mp failed)
        · have other := Option.not_isSome_iff_eq_none.mp number'
          have long := (nextFlag_held set number other).mp failed
          cases holds : (found.getD .null).present? with
          | none => simp [holds, Value.number?] at other
          | some current =>
            rw [holds] at other long
            exact .held named set number holds other long
  · intro wordless
    cases wordless with
    | count counted => cases counted
    | amount named arithmetic other long =>
      rw [named]
      exact (nextFlag_amount arithmetic other).mpr long
    | held named arithmetic number holds other long =>
      rw [named]
      exact (nextFlag_held arithmetic number (by rwa [holds])).mpr (by rwa [holds])
    | flag named arithmetic number holds number' lost =>
      subst holds
      rw [named]
      exact (nextFlag_numbers arithmetic number number').mpr lost

theorem amountOf_ne_badValue (context : String) (value : Value) :
    amountOf context value ≠ .error (.fault .badValue) := by
  intro failed
  obtain ⟨problem, same⟩ := amountOf_eq_error failed
  cases same

theorem counted_eq_badValue {floor : Int} {context : String} {absent : Value} {kind : Target}
    (counts : kind.absent? = some absent)
    (numeric : ∃ current : Number, found.getD absent = current.toValue) :
    counted (nextWhole floor) context absent effect found = .error (.fault .badValue) ↔
      Wordless effect found kind := by
  obtain ⟨current, held⟩ := numeric
  simp only [counted, bind_eq_error, amountOf_ne_badValue, false_or, held, nextWhole_eq_badValue]
  constructor
  · rintro ⟨amount, read, operation, named, lost⟩
    exact .count counts named (amountOf_ok_context.mp read) (held ▸ lost)
  · intro wordless
    cases wordless with
    | count counts' named read lost =>
      obtain rfl := Option.some.inj (counts.symm.trans counts')
      exact ⟨_, amountOf_ok_context.mp read, _, named, held ▸ lost⟩
    | _ => cases counts

theorem durationOf_unfit (unfit : Unfit (Value.field effect.metadata "duration")) :
    durationOf effect = refuseDuration (Value.field effect.metadata "duration") := by
  obtain ⟨there, negative⟩ := unfit
  unfold durationOf
  split
  · rename_i asked
    exact absurd asked there
  · rename_i turns asked
    rw [if_pos (negative turns asked), asked]
  · rfl

theorem durationOf_fit (fit : ¬ Unfit (Value.field effect.metadata "duration")) :
    ∃ duration, durationOf effect = .ok duration := by
  unfold durationOf
  split
  · exact ⟨_, rfl⟩
  · rename_i turns asked
    refine ⟨.int turns, if_neg fun negative => fit ⟨by simp [asked], fun other same => ?_⟩⟩
    cases asked.symm.trans same
    exact negative
  · rename_i there other
    exact absurd ⟨there, fun turns same => absurd same (other turns)⟩ fit

theorem durationOf_eq_badValue : durationOf effect = .error (.fault .badValue) ↔
    Unfit (Value.field effect.metadata "duration") ∧
      (Value.field effect.metadata "duration").isWritable = false := by
  by_cases unfit : Unfit (Value.field effect.metadata "duration")
  · rw [durationOf_unfit unfit, refuseDuration]
    cases (Value.field effect.metadata "duration").isWritable <;> simp [refuse, unfit]
  · obtain ⟨duration, lasts⟩ := durationOf_fit unfit
    simp [lasts, unfit]

theorem durationOf_eq_ok : (∃ duration, durationOf effect = .ok duration) ↔
    ¬ Unfit (Value.field effect.metadata "duration") := by
  refine ⟨fun ⟨duration, lasts⟩ unfit => ?_, durationOf_fit⟩
  rw [durationOf_unfit unfit] at lasts
  exact refuseDuration_ne_ok _ _ lasts

theorem sourceOf_eq_badValue : sourceOf effect = .error (.fault .badValue) ↔
    (Value.field effect.metadata "source").isWritable = false := by
  unfold sourceOf
  split
  · rename_i asked
    simp [asked, Value.isWritable]
  · split <;> simp_all

theorem statusOf_eq_badValue : statusOf effect = .error (.fault .badValue) ↔
    (∃ amount, amountOf effect.target effect.value = .ok amount) ∧
      (Unfit (Value.field effect.metadata "duration") ∧
          (Value.field effect.metadata "duration").isWritable = false ∨
        ¬ Unfit (Value.field effect.metadata "duration") ∧
          (Value.field effect.metadata "source").isWritable = false) := by
  rw [← durationOf_eq_badValue, ← durationOf_eq_ok, ← sourceOf_eq_badValue]
  simp only [statusOf, bind_eq_error, amountOf_ne_badValue, false_or]
  constructor
  · rintro ⟨amount, read, failed⟩
    refine ⟨⟨amount, amountOf_ok_context.mp read⟩, ?_⟩
    rcases failed with unfit | ⟨duration, timed, unsourced | ⟨source, _, made⟩⟩
    · exact .inl unfit
    · exact .inr ⟨⟨duration, timed⟩, unsourced⟩
    · cases made
  · rintro ⟨⟨amount, read⟩, failed⟩
    refine ⟨amount, amountOf_ok_context.mp read, ?_⟩
    rcases failed with unfit | ⟨⟨duration, timed⟩, unsourced⟩
    · exact .inl unfit
    · exact .inr ⟨duration, timed, .inl unsourced⟩

theorem treatment_eq_badValue :
    treatment effect = .error (.fault .badValue) ↔ Wordless effect found .status := by
  have lasting_iff : treatment effect = .error (.fault .badValue) ↔
      (effect.operation = Operation.add.name ∨ effect.operation = Operation.set.name) ∧
        statusOf effect = .error (.fault .badValue) := by
    rw [← Operation.ofName?_eq_some, ← Operation.ofName?_eq_some]
    unfold treatment
    rcases Operation.ofName? effect.operation with _ | operation
    · simp [refuse]
    · cases operation <;> simp [refuse, bind_eq_error, pure, Except.pure]
  rw [lasting_iff, statusOf_eq_badValue]
  constructor
  · rintro ⟨named, ⟨amount, read⟩, failed⟩
    obtain ⟨operation, named, lasting⟩ : ∃ operation : Operation,
        effect.operation = operation.name ∧ (operation = .add ∨ operation = .set) := by
      rcases named with add | set
      · exact ⟨.add, add, .inl rfl⟩
      · exact ⟨.set, set, .inr rfl⟩
    rcases failed with ⟨unfit, long⟩ | ⟨fit, long⟩
    · exact .duration named lasting read unfit long
    · exact .source named lasting read fit long
  · intro wordless
    cases wordless with
    | count counted => cases counted
    | duration named lasting read unfit long =>
      refine ⟨?_, ⟨_, read⟩, .inl ⟨unfit, long⟩⟩
      rcases lasting with rfl | rfl <;> simp [named]
    | source named lasting read fit long =>
      refine ⟨?_, ⟨_, read⟩, .inr ⟨fit, long⟩⟩
      rcases lasting with rfl | rfl <;> simp [named]

theorem lookup?_countable {contents : Contents} (countable : contents.Countable) {kind : Target}
    {absent : Value} (counts : kind.absent? = some absent) (name : String) :
    ∃ current : Number, (contents.lookup? (kind, name)).getD absent = current.toValue := by
  cases kind <;> cases counts
  · exact getD_number countable.wallets (.text name) 0
  · exact getD_number countable.inventory (.text name) 0
  · exact getD_number countable.stats (.text name) 10

theorem asked_eq_badValue {contents : Contents} (countable : contents.Countable) {kind : Target} :
    asked effect (contents.lookup? (kind, effect.target)) kind = .error (.fault .badValue) ↔
      Wordless effect (contents.lookup? (kind, effect.target)) kind := by
  cases kind with
  | wallet =>
    exact bind_pure_eq_error.trans (counted_eq_badValue rfl (lookup?_countable countable rfl _))
  | inventory =>
    exact bind_pure_eq_error.trans (counted_eq_badValue rfl (lookup?_countable countable rfl _))
  | stat =>
    exact bind_pure_eq_error.trans (counted_eq_badValue rfl (lookup?_countable countable rfl _))
  | flag => exact bind_pure_eq_error.trans nextFlag_eq_badValue
  | status => exact treatment_eq_badValue

theorem Target.ofName?_eq_some {name : String} {target : Target} :
    Target.ofName? name = some target ↔ name = target.name := by
  refine ⟨Target.name_of_ofName?, ?_⟩
  rintro rfl
  cases target <;> decide

theorem outcome_eq_badValue {contents : Contents} (countable : contents.Countable) :
    outcome effect contents.state = .error (.fault .badValue) ↔
      ∃ kind : Target, effect.type = kind.name ∧
        Wordless effect (contents.lookup? (kind, effect.target)) kind := by
  have mapped {α β : Type} (outcome : Outcome α) (change : α → β) (failure : Failure) :
      outcome.map change = .error failure ↔ outcome = .error failure := by
    cases outcome <;> simp [Except.map]
  rw [outcome_eq, mapped, demand]
  simp only [← Target.ofName?_eq_some]
  cases Target.ofName? effect.type with
  | none => simp
  | some kind => simp [mapped, asked_eq_badValue countable]

/-- A fault that breaks a batch off comes from one effect, which the batch has reached. -/
theorem run_broken_iff {state : GameState} {effects : List EffectDef} {fault : Fault} :
    (run state effects).broken = some fault ↔ ∃ before effect after,
      effects = before ++ effect :: after ∧ (run state before).broken = none ∧
      outcome effect (run state before).state = .error (.fault fault) := by
  constructor
  · -- Each effect hands a state on to the rest of the batch, so the induction is for all of them.
    intro broken
    induction effects generalizing state with
    | nil => cases broken
    | cons first effects ih =>
      rcases perform_cases first state with ⟨next, performed⟩ | skips | ⟨cause, failed⟩
      · rw [run_cons_applied performed] at broken
        obtain ⟨before, effect, after, rfl, whole, fails⟩ := ih broken
        refine ⟨first :: before, effect, after, rfl, ?_, ?_⟩ <;>
          rwa [run_cons_applied performed]
      · rw [run_cons_skipped skips] at broken
        obtain ⟨before, effect, after, rfl, whole, fails⟩ := ih broken
        refine ⟨first :: before, effect, after, rfl, ?_, ?_⟩ <;>
          rwa [run_cons_skipped skips]
      · rw [run_cons_broken failed] at broken
        cases broken
        exact ⟨[], first, effects, rfl, rfl, (perform_eq_error.mp failed).1⟩
  · rintro ⟨before, effect, after, rfl, whole, failed⟩
    rw [run_append whole, run_cons_broken (perform_eq_error.mpr ⟨failed, rfl⟩)]

/-- An object whose parts are text declares an effect, whatever its value and its metadata are. -/
structure Declares (fields : Table Value) (effect : EffectDef) : Prop where
  type : fields.get? "type" = some (.text effect.type)
  target : fields.get? "target" = some (.text effect.target)
  operation : fields.get? "operation" = some (.text effect.operation)
  value : effect.value = Value.field fields "value"
  metadata : effect.metadata = ((fields.get? "metadata").bind Value.fields?).getD []

theorem Declares.read {fields : Table Value} {effect : EffectDef} (declares : Declares fields effect) :
    EffectDef.ofValue (.object fields) = .ok effect := by
  obtain ⟨type, target, operation, value, metadata⟩ := effect
  obtain ⟨typed, targeted, operated, rfl, rfl⟩ := declares
  change EffectDef.ofFields fields = _
  rw [EffectDef.ofFields, EffectDef.part, EffectDef.part, EffectDef.part, typed, targeted, operated]
  rfl

/-- From an accepted state a batch runs through, unless it comes to an effect whose refusal cannot
be put into words for the state that the effects before it have made. -/
theorem applyAll_broken_iff {state : GameState} (accepted : state.validate = .ok ()) (now : Timestamp) :
    (∀ effects, (applyAll now effects state).broken = none ∨
      (applyAll now effects state).broken = some .badValue) ∧
    (∀ effects, (applyAll now effects state).broken = some .badValue ↔
      ∃ before effect after, effects = before ++ effect :: after ∧
        (run state before).broken = none ∧
        ∃ (contents : Contents) (kind : Target), (run state before).state = contents.state ∧
          effect.type = kind.name ∧
          Wordless effect (contents.lookup? (kind, effect.target)) kind) ∧
    (∀ documents effects, documents.map EffectDef.ofValue = effects.map .ok →
      applyDocuments now documents state = applyAll now effects state) ∧
    ∀ fields effect, Declares fields effect → EffectDef.ofValue (.object fields) = .ok effect := by
  obtain ⟨contents, rfl, valid⟩ := GameState.validate_eq_ok.mp accepted
  refine ⟨fun effects => ?_, fun effects => ?_,
    fun documents effects read => applyDocuments_eq read contents.state, fun _ _ => Declares.read⟩
  · rw [applyAll_broken]
    cases broken : (run contents.state effects).broken with
    | none => exact .inl rfl
    | some fault => exact .inr (by rw [run_broken valid.countable broken])
  · rw [applyAll_broken, run_broken_iff]
    refine exists_congr fun before => exists_congr fun effect => exists_congr fun after =>
      and_congr_right fun _ => and_congr_right fun _ => ?_
    obtain ⟨reached, left, countable⟩ := run_countable valid.countable before
    rw [left, outcome_eq_badValue countable]
    constructor
    · rintro ⟨kind, named, wordless⟩
      exact ⟨reached, kind, rfl, named, wordless⟩
    · rintro ⟨other, kind, same, named, wordless⟩
      obtain rfl := Contents.state_injective same
      exact ⟨kind, named, wordless⟩

/-- A heap of gold with as many digits as can be written, one digit more, and a half of it more. -/
def hoard : List EffectDef :=
  [Story.Lighthouse.effect "wallet" "gold" "set" (.int (10 ^ 4299 : Nat)),
    Story.Lighthouse.effect "wallet" "gold" "multiply" (.int 10),
    Story.Lighthouse.effect "wallet" "gold" "multiply" (.text "1.5"),
    Story.Lighthouse.effect "wallet" "gold" "set" (.int 1)]

/-- The last effect would be applied, but the one before it can neither be applied nor refused. -/
theorem applyAll_broken_hoard :
    Story.Lighthouse.opening.validate = .ok () ∧
    (applyAll Story.Lighthouse.morning hoard Story.Lighthouse.opening).broken = some .badValue ∧
    ∃ before effect after, hoard = before ++ effect :: after ∧
      (run Story.Lighthouse.opening before).broken = none ∧
      ∃ (contents : Contents) (kind : Target),
        (run Story.Lighthouse.opening before).state = contents.state ∧ effect.type = kind.name ∧
        Wordless effect (contents.lookup? (kind, effect.target)) kind := by
  obtain ⟨_, accepted⟩ : ∃ done, Story.Lighthouse.opening.validate = .ok done :=
    ok_of_isOk (by decide +kernel)
  have broken : (applyAll Story.Lighthouse.morning hoard Story.Lighthouse.opening).broken =
      some .badValue := by decide +kernel
  exact ⟨accepted, broken, ((applyAll_broken_iff accepted Story.Lighthouse.morning).2.1 hoard).mp broken⟩

end Gamebook.Effect
