import Gamebook.Condition.Evaluate

/-!
The laws of the Boolean connectives. A connective is worth the operand that decides it and fails as
the first operand that fails before that, so its laws hold of values and of failures alike: negation
exchanges the two connectives, and nested connectives of one kind are one connective.
-/
namespace Gamebook.Condition

/-- The connective that an operand of the given truth decides. -/
def Expr.decidedBy (truth : Bool) (operands : List Expr) : Expr :=
  if truth then .any operands else .all operands

section
variable (context : Context) (predicates : Predicates)

/-- The value of the first operand of the given truth, or of the last. -/
def evaluateUntil (truth : Bool) (last : Value) : List Expr → Outcome Value
  | [] => .ok last
  | operand :: operands => do
    let value ← evaluate context predicates operand
    if value.truthy = truth then return value else evaluateUntil truth value operands

variable {context predicates} {truth : Bool}

theorem evaluateAll_eq (last : Value) (operands : List Expr) :
    evaluateAll context predicates last operands =
      evaluateUntil context predicates false last operands := by
  induction operands generalizing last with
  | nil => rfl
  | cons operand operands ih =>
    rw [evaluateUntil, evaluateAll]
    refine bind_congr fun value => ?_
    rw [ih]
    cases value.truthy <;> rfl

theorem evaluateAny_eq (last : Value) (operands : List Expr) :
    evaluateAny context predicates last operands =
      evaluateUntil context predicates true last operands := by
  induction operands generalizing last with
  | nil => rfl
  | cons operand operands ih =>
    rw [evaluateUntil, evaluateAny]
    refine bind_congr fun value => ?_
    rw [ih]

theorem evaluate_decidedBy (operands : List Expr) :
    evaluate context predicates (.decidedBy truth operands) =
      evaluateUntil context predicates truth .null operands := by
  cases truth with
  | true => exact evaluateAny_eq .null operands
  | false => exact evaluateAll_eq .null operands

theorem evaluateUntil_last {operands : List Expr} (filled : operands ≠ []) (last other : Value) :
    evaluateUntil context predicates truth last operands =
      evaluateUntil context predicates truth other operands := by
  cases operands with
  | nil => exact absurd rfl filled
  | cons operand operands => rfl

/-- Operands that are evaluated first decide, or leave it to the others. -/
theorem evaluateUntil_append {last : Value} {first : List Expr}
    (starts : last.truthy ≠ truth ∨ first ≠ []) (rest : List Expr) :
    evaluateUntil context predicates truth last (first ++ rest) =
      evaluateUntil context predicates truth last first >>= fun value =>
        if value.truthy = truth then return value
        else evaluateUntil context predicates truth value rest := by
  induction first generalizing last with
  | nil =>
    have undecided : last.truthy ≠ truth := starts.resolve_right fun filled => filled rfl
    exact (if_neg undecided).symm
  | cons operand first ih =>
    rw [List.cons_append, evaluateUntil, evaluateUntil, bind_assoc]
    refine bind_congr fun value => ?_
    by_cases decides : value.truthy = truth
    · rw [if_pos decides, if_pos decides]
      exact (if_pos decides).symm
    · rw [if_neg decides, if_neg decides]
      exact ih (.inl decides)

/-- A connective among the operands of its own kind is its operands. -/
theorem evaluateUntil_nested (last : Value) (before : List Expr) {inner : List Expr}
    (filled : inner ≠ []) (after : List Expr) :
    evaluateUntil context predicates truth last (before ++ .decidedBy truth inner :: after) =
      evaluateUntil context predicates truth last (before ++ inner ++ after) := by
  induction before generalizing last with
  | nil =>
    rw [List.nil_append, List.nil_append, evaluateUntil, evaluate_decidedBy,
      evaluateUntil_append (.inr filled), evaluateUntil_last filled .null last]
  | cons operand before ih =>
    rw [List.cons_append, List.cons_append, List.cons_append, evaluateUntil, evaluateUntil]
    refine bind_congr fun value => ?_
    rw [ih]

/-- Negated operands are decided by the opposite truth, and worth the negation of what decides. -/
theorem evaluateUntil_not (last : Value) (operands : List Expr) :
    evaluateUntil context predicates (!truth) (.bool !last.truthy) (operands.map .not) = do
      return .bool !(← evaluateUntil context predicates truth last operands).truthy := by
  induction operands generalizing last with
  | nil => rfl
  | cons operand operands ih =>
    rw [List.map_cons, evaluateUntil, evaluateUntil, evaluate, bind_assoc, bind_assoc]
    refine bind_congr fun value => ?_
    rw [pure_bind, ih]
    have negated : (Value.bool !value.truthy).truthy = !truth ↔ value.truthy = truth := by
      simp [Value.truthy]
    by_cases decides : value.truthy = truth
    · rw [if_pos (negated.mpr decides), if_pos decides]
      rfl
    · rw [if_neg fun same => decides (negated.mp same), if_neg decides]

theorem not_decidedBy (truth : Bool) {operands : List Expr} (filled : operands ≠ []) :
    evaluate context predicates (.not (.decidedBy truth operands)) =
      evaluate context predicates (.decidedBy (!truth) (operands.map .not)) := by
  have others : operands.map Expr.not ≠ [] := fun none => filled (List.map_eq_nil_iff.mp none)
  rw [evaluate, evaluate_decidedBy, evaluate_decidedBy,
    evaluateUntil_last others .null (.bool !Value.null.truthy), evaluateUntil_not]

theorem decidedBy_nested (truth : Bool) (before : List Expr) {inner : List Expr} (filled : inner ≠ [])
    (after : List Expr) :
    evaluate context predicates (.decidedBy truth (before ++ [.decidedBy truth inner] ++ after)) =
      evaluate context predicates (.decidedBy truth (before ++ inner ++ after)) := by
  rw [evaluate_decidedBy, evaluate_decidedBy, List.append_assoc, List.singleton_append,
    evaluateUntil_nested _ _ filled]

/-- Arms of a branch, each a condition and its result, leave the rest to a branch of its own. -/
theorem branch_nested (arms : List (Expr × Expr)) (rest : List Expr) :
    evaluate context predicates (.branch (arms.flatMap (fun arm => [arm.1, arm.2]) ++ rest)) =
      evaluate context predicates
        (.branch (arms.flatMap (fun arm => [arm.1, arm.2]) ++ [.branch rest])) := by
  induction arms with
  | nil => rfl
  | cons arm arms ih =>
    refine bind_congr fun value => ?_
    split
    · rfl
    · exact ih

end

/-- The laws of Boolean algebra that evaluation obeys, whether it gives a value or fails. -/
theorem connective_laws (context : Context) (predicates : Predicates) (xs ys zs : List Expr)
    (outer : xs ≠ []) (inner : ys ≠ []) (condition result : Expr) :
    let value := evaluate context predicates
    value (.not (.all xs)) = value (.any (xs.map .not)) ∧
    value (.not (.any xs)) = value (.all (xs.map .not)) ∧
    value (.all (xs ++ [.all ys] ++ zs)) = value (.all (xs ++ ys ++ zs)) ∧
    value (.any (xs ++ [.any ys] ++ zs)) = value (.any (xs ++ ys ++ zs)) ∧
    value (.branch ([condition, result] ++ zs)) = value (.branch [condition, result, .branch zs]) := by
  refine ⟨?_, ?_, ?_, ?_, ?_⟩
  · exact not_decidedBy false outer
  · exact not_decidedBy true outer
  · exact decidedBy_nested false xs inner zs
  · exact decidedBy_nested true xs inner zs
  · exact branch_nested [(condition, result)] zs

theorem connective_laws_unsung :
    let context : Context := ⟨[], [], [], [], [], [], [], [], .text "pier", 0⟩
    let value := evaluate context []
    let sing := Expr.predicate "sing" []
    let unknown : Outcome Value := problem (.unknownOperation "sing")
    [.const (.int 0), sing] ≠ [] ∧ [sing] ≠ [] ∧
    value (.not (.all [.const (.int 0), sing])) = value (.any [.not (.const (.int 0)), .not sing]) ∧
    value (.any [.not (.const (.int 0)), .not sing]) = .ok (.bool true) ∧
    value (.any ([.const (.int 0), sing] ++ [.any [sing]] ++ [.const .null])) =
      value (.any ([.const (.int 0), sing] ++ [sing] ++ [.const .null])) ∧
    value (.any ([.const (.int 0), sing] ++ [sing] ++ [.const .null])) = unknown := by
  intro context value sing unknown
  have laws := connective_laws context [] [.const (.int 0), sing] [sing] [.const .null]
    (List.cons_ne_nil _ _) (List.cons_ne_nil _ _) sing sing
  exact ⟨List.cons_ne_nil _ _, List.cons_ne_nil _ _, laws.1, rfl, laws.2.2.2.1, rfl⟩

end Gamebook.Condition
