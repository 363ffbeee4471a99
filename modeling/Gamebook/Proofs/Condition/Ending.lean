import Gamebook.Proofs.Condition.Evaluating
import Gamebook.Proofs.Condition.Viewing
import Gamebook.Proofs.Play.Escape

/-!
How an evaluation ends: with a value, with a problem that conditions are known to have, or with a
fault, of which the parts that an evaluation gets to tell exactly when and which.
-/
namespace Gamebook.Condition

/-- A problem of a condition, or a fault. -/
inductive Foils : Failure → Prop
  | problem (cause : ConditionProblem) : Foils (.condition cause)
  | fault (fault : Fault) : Foils (.fault fault)

section
variable {context : Context}

theorem liftProblem_fails {α : Type} (outcome : Except ConditionProblem α) :
    FailsBy Foils (liftProblem outcome) := by
  cases outcome with
  | error cause => exact failsBy_error (.problem cause)
  | ok value => exact failsBy_ok value

theorem lookup_fails (path : Value) : FailsBy Foils (lookup context path) := by
  have parts : FailsBy Foils (pathParts path) := by
    unfold pathParts
    split
    · exact failsBy_ok _
    · exact failsBy_ok _
    · split
      · exact failsBy_ok _
      · exact failsBy_error (.fault _)
    · split
      · exact failsBy_error (.problem _)
      · exact failsBy_error (.fault _)
  refine failsBy_bind parts fun parts _ => ?_
  cases parts with
  | none => exact failsBy_ok _
  | some parts => exact failsBy_lift .fault

theorem isMissing_fails (path : Value) : FailsBy Foils (isMissing context path) := by
  refine failsBy_bind (lookup_fails path) fun found _ => ?_
  split <;> exact failsBy_ok _

theorem compareAll_fails (comparison : Comparison) (values : List Value) :
    FailsBy Foils (compareAll comparison values) := by
  unfold compareAll
  split
  · exact failsBy_bind (liftProblem_fails _) fun _ _ => failsBy_ok _
  · refine failsBy_bind (liftProblem_fails _) fun holds _ => ?_
    split
    · exact failsBy_bind (liftProblem_fails _) fun _ _ => failsBy_ok _
    · exact failsBy_ok _
  · exact failsBy_ok _

theorem calculate_fails (operation : Operation) (numbers : List Number) :
    FailsBy Foils (calculate operation numbers) := by
  have divided (operation : Operation) (divide : Number → Number → Except Fault Number)
      (a b : Number) : FailsBy Foils (divideBy operation divide a b) := by
    unfold divideBy
    split
    · exact failsBy_error (.problem _)
    · exact failsBy_lift .fault
  unfold calculate
  split
  case h_7 => exact divided _ _ _ _
  case h_8 => exact divided _ _ _ _
  case h_9 => exact failsBy_error (.fault _)
  all_goals first | exact failsBy_lift .fault | exact failsBy_ok _

theorem isMember_fails (needle haystack : Value) : FailsBy Foils (isMember needle haystack) := by
  unfold isMember
  split
  case h_6 => exact failsBy_error (.problem _)
  case h_7 => exact failsBy_error (.problem _)
  all_goals exact failsBy_lift .fault

theorem entryUnder_fails (dict : Dict) (key : Value) : FailsBy Foils ( entry? dict key) := by
  unfold entry?
  split
  · exact failsBy_ok _
  · exact failsBy_error (.fault _)

theorem holdsItem_fails (key : Value) : FailsBy Foils (holdsItem context key) :=
  failsBy_bind (entryUnder_fails _ key) fun _ _ => failsBy_ok _

theorem holdsItems_fails (keys : List Value) : FailsBy Foils (holdsItems context keys) := by
  induction keys with
  | nil => exact failsBy_ok _
  | cons key keys ih =>
    refine failsBy_bind (holdsItem_fails key) fun held _ => ?_
    cases held with
    | true => exact ih
    | false => exact failsBy_ok _

theorem argument_fails {name : String} {operands : List Value} {answer : Value → Outcome Value}
    (each : ∀ key, FailsBy Foils (answer key)) : FailsBy Foils (argument name operands >>= answer) := by
  cases operands with
  | nil => exact failsBy_error (.problem _)
  | cons key rest => exact each key

theorem predicate_fails {name : String} {predicate : Predicate} {operands : List Value}
    (known : defaultPredicates.get? name = some predicate) :
    FailsBy Foils (predicate context operands) := by
  have amounts (dict : Dict) (key : Value) : FailsBy Foils (amount dict key) := by
    refine failsBy_bind (entryUnder_fails dict key) fun found _ => ?_
    split <;> exact failsBy_ok _
  obtain ⟨entry, member, _, rfl⟩ := Assoc.mem_of_get? known
  simp only [defaultPredicates, List.mem_cons, List.not_mem_nil, or_false] at member
  rcases member with rfl | rfl | rfl | rfl | rfl | rfl
  · exact argument_fails fun key => failsBy_bind (holdsItem_fails key) fun _ _ => failsBy_ok _
  · exact failsBy_bind (holdsItems_fails _) fun _ _ => failsBy_ok _
  · exact argument_fails fun key => amounts _ key
  · exact argument_fails fun key => failsBy_bind (failsBy_lift .fault) fun _ _ => failsBy_ok _
  · exact argument_fails fun key => failsBy_bind (failsBy_lift .fault) fun _ _ => failsBy_ok _
  · exact argument_fails fun key => amounts _ key

section
variable {operands : List Expr}
  (each : ∀ part ∈ operands, FailsBy Foils (evaluate context defaultPredicates part))
include each

theorem evaluateItems_fails : FailsBy Foils (evaluateItems context defaultPredicates operands) := by
  induction operands with
  | nil => exact failsBy_ok _
  | cons part operands ih =>
    obtain ⟨first, others⟩ := List.forall_mem_cons.mp each
    exact failsBy_bind first fun _ _ => failsBy_bind (ih others) fun _ _ => failsBy_ok _

theorem evaluateNumbers_fails : FailsBy Foils (evaluateNumbers context defaultPredicates operands) := by
  induction operands with
  | nil => exact failsBy_ok _
  | cons part operands ih =>
    obtain ⟨first, others⟩ := List.forall_mem_cons.mp each
    refine failsBy_bind first fun value _ => failsBy_bind (liftProblem_fails _) fun number _ => ?_
    exact failsBy_bind (ih others) fun _ _ => failsBy_ok _

theorem evaluateMissing_fails : FailsBy Foils (evaluateMissing context defaultPredicates operands) := by
  induction operands with
  | nil => exact failsBy_ok _
  | cons part operands ih =>
    obtain ⟨first, others⟩ := List.forall_mem_cons.mp each
    refine failsBy_bind first fun path _ => failsBy_bind (isMissing_fails path) fun gone _ => ?_
    exact failsBy_bind (ih others) fun _ _ => failsBy_ok _

theorem evaluateUntil_fails (truth : Bool) (last : Value) :
    FailsBy Foils (evaluateUntil context defaultPredicates truth last operands) := by
  induction operands generalizing last with
  | nil => exact failsBy_ok _
  | cons part operands ih =>
    obtain ⟨first, others⟩ := List.forall_mem_cons.mp each
    refine failsBy_bind first fun value _ => ?_
    split
    · exact failsBy_ok _
    · exact ih others value

end

theorem evaluateBranch_fails (parts : List Expr)
    (each : ∀ part ∈ parts, FailsBy Foils (evaluate context defaultPredicates part)) :
    FailsBy Foils (evaluateBranch context defaultPredicates parts) := by
  match parts with
  | [] => exact failsBy_ok _
  | [fallback] => exact each fallback (.head _)
  | condition :: result :: rest =>
    obtain ⟨first, others⟩ := List.forall_mem_cons.mp each
    obtain ⟨second, others⟩ := List.forall_mem_cons.mp others
    refine failsBy_bind first fun value _ => ?_
    split
    · exact second
    · exact evaluateBranch_fails rest others

theorem evaluate_fails (expr : Expr) : FailsBy Foils (evaluate context defaultPredicates expr) := by
  induction expr using Expr.induction_operands with
  | step expr ih =>
    cases expr with
    | const value => exact failsBy_ok _
    | invalid reason => exact failsBy_error (.problem _)
    | array items => exact failsBy_bind (evaluateItems_fails ih) fun _ _ => failsBy_ok _
    | not operand => exact failsBy_bind (ih operand (.head _)) fun _ _ => failsBy_ok _
    | truth operand => exact failsBy_bind (ih operand (.head _)) fun _ _ => failsBy_ok _
    | compare comparison operands =>
      exact failsBy_bind (evaluateItems_fails ih) fun values _ => compareAll_fails comparison values
    | all operands =>
      rw [evaluate, evaluateAll_eq]
      exact evaluateUntil_fails ih false .null
    | any operands =>
      rw [evaluate, evaluateAny_eq]
      exact evaluateUntil_fails ih true .null
    | branch parts => exact evaluateBranch_fails parts ih
    | lookup path fallback =>
      refine failsBy_bind (ih path (.head _)) fun value _ => ?_
      refine failsBy_bind (lookup_fails value) fun found _ => ?_
      cases found with
      | some found => exact failsBy_ok _
      | none =>
        cases fallback with
        | none => exact failsBy_ok _
        | some fallback => exact ih fallback (.tail _ (.head _))
    | missing paths => exact failsBy_bind (evaluateMissing_fails ih) fun _ _ => failsBy_ok _
    | arithmetic operation operands =>
      refine failsBy_bind (evaluateNumbers_fails ih) fun numbers _ => ?_
      exact failsBy_bind (calculate_fails operation numbers) fun _ _ => failsBy_ok _
    | member needle haystack =>
      refine failsBy_bind (ih needle (.head _)) fun value _ => ?_
      refine failsBy_bind (ih haystack (.tail _ (.head _))) fun table _ => ?_
      exact failsBy_bind (isMember_fails value table) fun _ _ => failsBy_ok _
    | predicate name operands =>
      rw [evaluate]
      split
      · exact failsBy_error (.problem _)
      · rename_i predicate known
        exact failsBy_bind (evaluateItems_fails ih) fun _ _ => predicate_fails known

end

/-- In an accepted state a condition has a value, or there is a problem with it, or its evaluation
stops. It stops exactly where it gets to a part that stops by itself, and before it starts exactly
if some visited node is no key. -/
theorem evaluation_ends {state : GameState} (accepted : state.validate = .ok ()) (document : Value) :
    (∀ fault, Context.ofState state = .error fault ↔ fault = .wrongKind ∧
      ∃ visits, state.visitedNodes.items id = .ok visits ∧ ∃ visit ∈ visits, visit.isKey = false) ∧
    ∀ context, Context.ofState state = .ok context →
      let outcome := evaluate context defaultPredicates (.ofDocument document)
      ((∃ value, outcome = .ok value) ∨ (∃ cause, outcome = .error (.condition cause)) ∨
        ∃ fault, outcome = .error (.fault fault)) ∧
      ∀ fault, outcome = .error (.fault fault) ↔
        ∃ part, Reaches context (.ofDocument document) part ∧ Breaks context part fault := by
  constructor
  · intro fault
    obtain ⟨contents, rfl, valid⟩ := GameState.validate_eq_ok.mp accepted
    have visits : contents.state.visitedNodes.items id = .ok contents.visits := rfl
    rw [ofState_eq_error valid, visits]
    simp
  · intro context _ outcome
    refine ⟨?_, fun fault => stops_ofDocument⟩
    have fails : FailsBy Foils outcome := evaluate_fails _
    cases ended : outcome with
    | ok value => exact .inl ⟨value, rfl⟩
    | error failure =>
      rcases fails failure ended with cause | fault
      · exact .inr (.inl ⟨cause, rfl⟩)
      · exact .inr (.inr ⟨fault, rfl⟩)

theorem evaluation_ends_squared :
    let state := GameState.create ⟨⟨2024, 5, 1⟩, ⟨8, 0, 0, 0⟩, some 0⟩ (.text "sailor") (.text "harbour")
      (.text "pier") (.text "first") .null
    state.validate = .ok () ∧ ∃ context, Context.ofState state = .ok context ∧
      evaluate context defaultPredicates
        (.ofDocument (.object [("var", .text "visitedNodes.²")])) = .error (.fault .badValue) := by
  intro state
  have accepted : state.validate = .ok () := by
    obtain ⟨_, accepted⟩ := ok_of_isOk (show state.validate.isOk = true by decide +kernel)
    exact accepted
  obtain ⟨context, seen⟩ : ∃ context, Context.ofState state = .ok context := ⟨_, rfl⟩
  have ends := (evaluation_ends accepted (.object [("var", .text "visitedNodes.²")])).2 context seen
  have parts : Text.splitAt '.' "visitedNodes.²".toList = ["visitedNodes".toList] ++ [['²']] := by decide
  have leads : follow context.root ["visitedNodes".toList] = .ok (some (.tuple context.visitedNodes)) := by
    rw [follow, Context.root, stepInto_record]
    rfl
  have stray : IsStray ['²'] := ⟨by decide, .inl ⟨'²', .head _, by decide⟩⟩
  have astray : Astray context.root (.text "visitedNodes.²") := .item parts leads rfl stray
  exact ⟨accepted, context, seen, (ends.2 .badValue).mpr ⟨_, .refl, .lookup rfl astray⟩⟩

end Gamebook.Condition
