import Gamebook.Condition.Gate
import Gamebook.Proofs.Outcome

/-!
Lists of conditions checked in a state. Beside a context, the check needs that no condition jams:
that none both fails to evaluate and has a number in it that its report cannot show.
-/
namespace Gamebook

namespace Value

theorem allWritable_iff {items : List Value} :
    allWritable items = true ↔ ∀ item ∈ items, item.isWritable = true := by
  induction items with
  | nil => simp [allWritable]
  | cons item items ih => simp [allWritable, ih]

theorem fieldsWritable_iff {fields : List (String × Value)} :
    fieldsWritable fields = true ↔ ∀ field ∈ fields, field.2.isWritable = true := by
  induction fields with
  | nil => simp [fieldsWritable]
  | cons field fields ih => simp [fieldsWritable, ih]

/-- What can be written out can be shown cut short, at whatever level. -/
theorem isAbridgeable_of_isWritable {value : Value} (writable : value.isWritable = true)
    (level : Nat) : value.isAbridgeable level = true := by
  induction level generalizing value with
  | zero => cases value <;> first | exact writable | rfl
  | succ level ih =>
    have items {items : List Value} (writable : allWritable items = true) :
        (items.take 6).all (isAbridgeable level) = true :=
      List.all_eq_true.mpr fun item member =>
        ih (allWritable_iff.mp writable item (List.mem_of_mem_take member))
    cases value with
    | int whole => exact writable
    | list entries => exact items writable
    | tuple entries => exact items writable
    | object fields =>
      refine List.all_eq_true.mpr fun field member => ih ?_
      exact fieldsWritable_iff.mp writable field (List.mem_mergeSort.mp (List.mem_of_mem_take member))
    | _ => rfl

end Value

namespace Condition

/-- A condition that gets no answer in a context. -/
structure Jams (predicates : Predicates) (context : Context) (condition : ConditionDef) : Prop where
  fails : ∃ problem, evaluate context predicates condition.expression = .error problem
  long : condition.logic.isAbridgeable 6 = false

/-- Whether a list of conditions can be checked in a state. -/
def Checkable (predicates : Predicates) (conditions : List ConditionDef) (state : GameState) : Prop :=
  conditions = [] ∨ ∃ context, Context.ofState state = .ok context ∧
    ∀ condition ∈ conditions, ¬ Jams predicates context condition

/-- Whether a condition is answered with no in a context. -/
def isUnmet (predicates : Predicates) (context : Context) (condition : ConditionDef) : Bool :=
  match isMet predicates context condition with
  | .ok met => !met
  | .error _ => false

/-- Whether a state, looked at for this condition alone, does not meet it. -/
def rejects (predicates : Predicates) (state : GameState) (condition : ConditionDef) : Bool :=
  match passes predicates condition state with
  | .ok met => !met
  | .error _ => false

/-- The conditions of a list that a state does not meet, each with its place. -/
def rejected (predicates : Predicates) (conditions : List ConditionDef) (state : GameState) :
    List FailedCondition :=
  (conditions.zipIdx.filter fun item => rejects predicates state item.1).map fun item =>
    ⟨item.2, item.1.logic⟩

section
variable {predicates : Predicates} {context : Context} {condition : ConditionDef}
  {conditions : List ConditionDef} {start : Nat} {fault : Fault}

theorem isMet_eq_error : isMet predicates context condition = .error fault ↔
    fault = .badValue ∧ Jams predicates context condition := by
  unfold isMet
  cases value : evaluate context predicates condition.expression with
  | ok value =>
    refine ⟨nofun, ?_⟩
    rintro ⟨_, ⟨_, failed⟩, _⟩
    cases value.symm.trans failed
  | error problem =>
    cases long : condition.logic.isAbridgeable 6 with
    | true => exact ⟨nofun, fun both => nomatch long.symm.trans both.2.long⟩
    | false => exact ⟨by rintro ⟨⟩; exact ⟨rfl, ⟨problem, value⟩, long⟩, by rintro ⟨rfl, _⟩; rfl⟩

theorem not_jams_of_isWritable (writable : condition.logic.isWritable = true) :
    ¬ Jams predicates context condition :=
  fun jams => nomatch jams.long.symm.trans (Value.isAbridgeable_of_isWritable writable 6)

theorem isMet_of_not_jams (answers : ¬ Jams predicates context condition) :
    isMet predicates context condition = .ok (!isUnmet predicates context condition) := by
  cases met : isMet predicates context condition with
  | ok met => simp [isUnmet, met]
  | error fault => exact absurd (isMet_eq_error.mp met).2 answers

theorem failures_eq_error : failures predicates context start conditions = .error fault ↔
    fault = .badValue ∧ ∃ condition ∈ conditions, Jams predicates context condition := by
  induction conditions generalizing start with
  | nil =>
    refine ⟨nofun, ?_⟩
    rintro ⟨_, _, ⟨⟩, _⟩
  | cons condition conditions ih =>
    rw [failures]
    by_cases jams : Jams predicates context condition
    · rw [isMet_eq_error.mpr ⟨rfl, jams⟩]
      exact ⟨by rintro ⟨⟩; exact ⟨rfl, condition, .head _, jams⟩, by rintro ⟨rfl, _⟩; rfl⟩
    · rw [isMet_of_not_jams jams]
      refine bind_pure_eq_error.trans (ih.trans (and_congr_right fun _ => ?_))
      simp [jams]

theorem failures_eq_ok {failed : List FailedCondition}
    (found : failures predicates context start conditions = .ok failed) :
    (∀ condition ∈ conditions, ¬ Jams predicates context condition) ∧
      failed = ((conditions.zipIdx start).filter fun item => isUnmet predicates context item.1).map
        fun item => ⟨item.2, item.1.logic⟩ := by
  have answers : ∀ condition ∈ conditions, ¬ Jams predicates context condition :=
    fun condition member jams => nomatch found.symm.trans
      (failures_eq_error.mpr ⟨rfl, condition, member, jams⟩)
  refine ⟨answers, ?_⟩
  induction conditions generalizing start failed with
  | nil =>
    cases found
    rfl
  | cons condition conditions ih =>
    obtain ⟨here, others⟩ := List.forall_mem_cons.mp answers
    rw [failures, isMet_of_not_jams here] at found
    obtain ⟨_, ⟨⟩, found⟩ := bind_eq_ok.mp found
    obtain ⟨rest, later, kept⟩ := bind_eq_ok.mp found
    obtain rfl := pure_eq_ok.mp kept
    rw [ih later others, List.zipIdx_cons]
    cases unmet : isUnmet predicates context condition <;> simp [unmet]

theorem allM_isMet (answers : ∀ condition ∈ conditions, ¬ Jams predicates context condition) :
    conditions.allM (isMet predicates context) =
      .ok (conditions.all fun condition => !isUnmet predicates context condition) := by
  induction conditions with
  | nil => rfl
  | cons condition conditions ih =>
    obtain ⟨here, others⟩ := List.forall_mem_cons.mp answers
    rw [List.allM, isMet_of_not_jams here, List.all_cons]
    cases isUnmet predicates context condition with
    | true => rfl
    | false => exact ih others

theorem allM_isMet_eq_true : conditions.allM (isMet predicates context) = .ok true ↔
    ∀ condition ∈ conditions, isMet predicates context condition = .ok true := by
  induction conditions with
  | nil => exact ⟨fun _ _ => nofun, fun _ => rfl⟩
  | cons condition conditions ih =>
    rw [List.allM, bind_eq_ok, List.forall_mem_cons, ← ih]
    constructor
    · rintro ⟨met, here, rest⟩
      cases met with
      | true => exact ⟨here, rest⟩
      | false => cases rest
    · exact fun ⟨here, rest⟩ => ⟨true, here, rest⟩

variable {state : GameState} {availability : Availability}

theorem availability_error : Condition.availability predicates conditions state = .error fault ↔
    conditions ≠ [] ∧ (Context.ofState state = .error fault ∨ fault = .badValue ∧
      ∃ context, Context.ofState state = .ok context ∧
        ∃ condition ∈ conditions, Jams predicates context condition) := by
  unfold Condition.availability
  split
  · rename_i none
    exact ⟨nofun, fun both => absurd (List.isEmpty_iff.mp none) both.1⟩
  · rename_i some
    rw [and_iff_right (by simpa using some), bind_eq_error]
    refine or_congr_right ⟨?_, ?_⟩
    · rintro ⟨context, seen, failed⟩
      obtain ⟨rfl, jammed⟩ := failures_eq_error.mp (bind_pure_eq_error.mp failed)
      exact ⟨rfl, context, seen, jammed⟩
    · rintro ⟨rfl, context, seen, jammed⟩
      exact ⟨context, seen, bind_pure_eq_error.mpr (failures_eq_error.mpr ⟨rfl, jammed⟩)⟩

/-- Conditions are checked together as each of them is by itself. -/
theorem availability_eq_ok
    (checked : Condition.availability predicates conditions state = .ok availability) :
    Checkable predicates conditions state ∧
      availability.failed = rejected predicates conditions state := by
  unfold Condition.availability at checked
  split at checked
  · rename_i none
    obtain rfl := pure_eq_ok.mp checked
    obtain rfl := List.isEmpty_iff.mp none
    exact ⟨.inl rfl, rfl⟩
  · obtain ⟨context, seen, rest⟩ := bind_eq_ok.mp checked
    obtain ⟨failed, found, rest⟩ := bind_eq_ok.mp rest
    obtain rfl := pure_eq_ok.mp rest
    obtain ⟨answers, same⟩ := failures_eq_ok found
    refine ⟨.inr ⟨context, seen, answers⟩, same.trans ?_⟩
    have alone : rejects predicates state = isUnmet predicates context := by
      funext condition
      rw [rejects, passes, seen]
      rfl
    rw [rejected, alone]

theorem checkable_iff : Checkable predicates conditions state ↔
    ∃ availability, Condition.availability predicates conditions state = .ok availability := by
  refine ⟨fun checkable => ?_, fun ⟨_, checked⟩ => (availability_eq_ok checked).1⟩
  cases checked : Condition.availability predicates conditions state with
  | ok availability => exact ⟨availability, rfl⟩
  | error fault =>
    obtain ⟨guarded, cause⟩ := availability_error.mp checked
    obtain ⟨context, seen, answers⟩ := checkable.resolve_left guarded
    rcases cause with unseen | ⟨_, context', seen', condition, member, jams⟩
    · cases seen.symm.trans unseen
    · obtain rfl := Except.ok.inj (seen.symm.trans seen')
      exact absurd jams (answers condition member)

theorem passesAll_eq_ok
    (checked : Condition.availability predicates conditions state = .ok availability) :
    passesAll predicates conditions state = .ok availability.available := by
  unfold Condition.availability at checked
  unfold passesAll
  split at checked
  · rename_i none
    obtain rfl := pure_eq_ok.mp checked
    rw [if_pos none]
    rfl
  · rename_i some
    obtain ⟨context, seen, rest⟩ := bind_eq_ok.mp checked
    obtain ⟨failed, found, rest⟩ := bind_eq_ok.mp rest
    obtain rfl := pure_eq_ok.mp rest
    obtain ⟨answers, rfl⟩ := failures_eq_ok found
    rw [if_neg some, seen]
    refine (allM_isMet answers).trans (congrArg Except.ok (Bool.eq_iff_iff.mpr ?_))
    simp only [Availability.available, List.all_eq_true, Bool.not_eq_true', List.isEmpty_map,
      List.isEmpty_iff, List.filter_eq_nil_iff, Prod.forall, Bool.not_eq_true]
    refine ⟨fun met condition _ listed => met _ (List.fst_mem_of_mem_zipIdx listed),
      fun met condition member => ?_⟩
    obtain ⟨place, there⟩ := List.mem_iff_getElem?.mp member
    exact met condition place (List.mem_zipIdx_iff_getElem?.mpr there)

theorem availability_of_passesAll (passes : passesAll predicates conditions state = .ok true) :
    ∃ availability, Condition.availability predicates conditions state = .ok availability ∧
      availability.available = true := by
  cases checked : Condition.availability predicates conditions state with
  | ok availability =>
    exact ⟨availability, rfl, Except.ok.inj ((passesAll_eq_ok checked).symm.trans passes)⟩
  | error fault =>
    obtain ⟨guarded, cause⟩ := availability_error.mp checked
    rw [passesAll, if_neg (by simpa using guarded)] at passes
    obtain ⟨context, seen, all⟩ := bind_eq_ok.mp passes
    rcases cause with unseen | ⟨_, context', seen', condition, member, jams⟩
    · cases seen.symm.trans unseen
    · obtain rfl := Except.ok.inj (seen.symm.trans seen')
      have met := allM_isMet_eq_true.mp all condition member
      cases met.symm.trans (isMet_eq_error.mpr ⟨rfl, jams⟩)

end

end Condition
end Gamebook
