import Gamebook.Proofs.Condition.Parsing
import Gamebook.Proofs.Condition.Viewing

/-!
When conditions take two lists for equal. The items decide between lists of one kind, but the lists
that a context lends are of another kind than those that conditions write, so the visited nodes are
equal to no list that a condition can write down, not even to their own.
-/
namespace Gamebook

namespace Condition

/-- Whether a comparison asks for equality or for its opposite; the orders ask for neither. -/
def Comparison.equates? : Comparison → Option Bool
  | .equal | .identical => some true
  | .unequal | .different => some false
  | _ => none

end Condition

namespace Value
variable {a b : Value} {items others : List Value}

theorem equals_items (first : a.items? = some items) (second : b.items? = some others) :
    a.equals b = (a.kind == b.kind && sameItems items others) := by
  cases a <;> cases first <;> cases b <;> cases second <;>
    simp [equals, same, isNaN, kind, sameScalar, countable?, number?]

theorem sameItems_texts_iff {names others : List String} :
    sameItems (names.map .text) (others.map .text) = true ↔ names = others := by
  induction names generalizing others with
  | nil => cases others <;> simp [sameItems]
  | cons name names ih =>
    cases others with
    | nil => simp [sameItems]
    | cons other others =>
      rw [List.map_cons, List.map_cons, sameItems, Bool.and_eq_true, ih, text_same_iff,
        Value.text.injEq, List.cons.injEq, eq_comm (a := other)]

end Value

namespace Condition
variable {context : Context} {predicates : Predicates} {comparison : Comparison} {wanted : Bool}
  {a b : Value} {items others : List Value}

theorem Comparison.holds_items (asks : comparison.equates? = some wanted)
    (first : a.items? = some items) (second : b.items? = some others) :
    comparison.holds a b = .ok (wanted == (a.kind == b.kind && Value.sameItems items others)) := by
  have loosely : looselyEqual a b = a.equals b := by
    cases a <;> cases first <;> cases b <;> cases second <;> rfl
  have strictly : strictlyEqual a b = (a.kind == b.kind && a.equals b) := by
    cases a <;> cases first <;> cases b <;> cases second <;> rfl
  have equals := Value.equals_items first second
  cases comparison <;> cases asks <;>
    simp only [holds, loosely, strictly, equals, Bool.true_beq, Bool.false_beq, Bool.and_self_left]

theorem evaluate_compare_items (asks : comparison.equates? = some wanted) {left right : Expr}
    (leftIs : evaluate context predicates left = .ok a)
    (rightIs : evaluate context predicates right = .ok b)
    (first : a.items? = some items) (second : b.items? = some others) :
    evaluate context predicates (.compare comparison [left, right]) =
      .ok (.bool (wanted == (a.kind == b.kind && Value.sameItems items others))) := by
  have operands : evaluateItems context predicates [left, right] = .ok [a, b] := by
    simp [evaluateItems, leftIs, rightIs, bind, Except.bind, pure, Except.pure]
  rw [evaluate, operands]
  change compareAll comparison [a, b] = _
  rw [compareAll, comparison.holds_items asks first second]
  rfl

theorem evaluateItems_consts (values : List Value) :
    evaluateItems context predicates (values.map .const) = .ok values := by
  induction values with
  | nil => rfl
  | cons value values ih =>
    rw [List.map_cons, evaluateItems, ih]
    rfl

theorem ofDocument_compare (comparison : Comparison) {left right : Value} {first second : Expr}
    (leftIs : parseAt 1 left = .ok first) (rightIs : parseAt 1 right = .ok second) :
    Expr.ofDocument (.object [(comparison.name, .list [left, right])]) =
      .compare comparison [first, second] := by
  have other : comparison.name ≠ "missing" := by cases comparison <;> decide
  have each : (operandsFor comparison.name (.list [left, right])).mapM (parseAt 1) =
      .ok [first, second] := by
    rw [operandsFor, if_neg other]
    exact mapM_eq_ok.mpr (.cons leftIs (.cons rightIs .nil))
  refine ofDocument_operator (by cases comparison <;> decide) each ?_
  cases comparison <;> rfl

/-- Lists are compared by kind and content, whatever documents they are written as. -/
theorem evaluate_compared (asks : comparison.equates? = some wanted) {left right : Value}
    {first second : Expr} (leftIs : parseAt 1 left = .ok first) (rightIs : parseAt 1 right = .ok second)
    (leftGives : evaluate context predicates first = .ok a)
    (rightGives : evaluate context predicates second = .ok b) (leftItems : a.items? = some items)
    (rightItems : b.items? = some others) :
    evaluate context predicates (.ofDocument (.object [(comparison.name, .list [left, right])])) =
      .ok (.bool (wanted == (a.kind == b.kind && Value.sameItems items others))) := by
  rw [ofDocument_compare comparison leftIs rightIs]
  exact evaluate_compare_items asks leftGives rightGives leftItems rightItems

theorem evaluate_written (names : List String) :
    evaluate context predicates (.array ((names.map .text).map .const)) =
      .ok (.list (names.map .text)) := by
  rw [evaluate, evaluateItems_consts]
  rfl

/-- The visited nodes are lent as a fixed list, which equals no list that a condition writes,
whatever the two list: a comparison of them answers as if they differed, and answers right exactly
if they do. Lists that conditions write are equal if they list the same, and any two lists if,
besides, they are of one kind. -/
theorem visits_compared {state : GameState} {context : Context}
    (seen : Context.ofState state = .ok context) (predicates : Predicates) {comparison : Comparison}
    {wanted : Bool} (asks : comparison.equates? = some wanted) (names : List String) :
    let value (document : Value) := evaluate context predicates (.ofDocument document)
    let compared (left right : Value) := value (.object [(comparison.name, .list [left, right])])
    let visits := Value.object [("var", .text "visitedNodes")]
    let listed := Value.list (names.map .text)
    (∃ visited, state.visitedNodes.items id = .ok visited ∧ value visits = .ok (.tuple visited) ∧
      compared visits listed = .ok (.bool !wanted) ∧ compared listed visits = .ok (.bool !wanted) ∧
      ((compared visits listed = .ok (.bool wanted) ↔ visited = names.map .text) ↔
        visited ≠ names.map .text)) ∧
    (∀ others : List String, compared listed (.list (others.map .text)) =
      .ok (.bool (wanted == decide (names = others)))) ∧
    ∀ left right a b items others, evaluate context predicates left = .ok a →
      evaluate context predicates right = .ok b → a.items? = some items → b.items? = some others →
      evaluate context predicates (.compare comparison [left, right]) =
        .ok (.bool (wanted == (a.kind == b.kind && Value.sameItems items others))) := by
  intro value compared visits listed
  have lent : value visits = .ok (.tuple context.visitedNodes) :=
    evaluate_visitedNodes context predicates
  have visitsAre : parseAt 1 visits = .ok (.ofDocument visits) := rfl
  have listedIs (names : List String) : parseAt 1 (.list (names.map .text)) =
      .ok (.array ((names.map .text).map .const)) := parseAt_texts (by decide) names
  have first : compared visits listed = .ok (.bool !wanted) := by
    refine (evaluate_compared asks visitsAre (listedIs names) lent (evaluate_written names) rfl rfl).trans ?_
    cases wanted <;> rfl
  have second : compared listed visits = .ok (.bool !wanted) := by
    refine (evaluate_compared asks (listedIs names) visitsAre (evaluate_written names) lent rfl rfl).trans ?_
    cases wanted <;> rfl
  refine ⟨⟨_, (Context.ofState_eq_ok_iff.mp seen).visits, lent, first, second, ?_⟩, fun others => ?_, ?_⟩
  · rw [first]
    simp
  · have same : Value.sameItems (names.map .text) (others.map .text) = decide (names = others) := by
      rw [Bool.eq_iff_iff, Value.sameItems_texts_iff, decide_eq_true_iff]
    rw [← same]
    exact evaluate_compared asks (listedIs names) (listedIs others) (evaluate_written names)
      (evaluate_written others) rfl rfl
  · intro left right a b items others leftIs rightIs
    exact evaluate_compare_items asks leftIs rightIs

theorem visits_compared_pier :
    let state := GameState.create ⟨⟨2024, 5, 1⟩, ⟨8, 0, 0, 0⟩, some 0⟩ (.text "sailor") (.text "harbour")
      (.text "pier") (.text "first") .null
    ∃ context, Context.ofState state = .ok context ∧ Comparison.identical.equates? = some true ∧
      state.visitedNodes.items id = .ok [.text "pier"] ∧
      evaluate context [] (.ofDocument (.object [("===",
        .list [.object [("var", .text "visitedNodes")], .list [.text "pier"]])])) = .ok (.bool false) := by
  intro state
  obtain ⟨context, seen⟩ : ∃ context, Context.ofState state = .ok context := ⟨_, rfl⟩
  have compared := visits_compared seen [] (rfl : Comparison.identical.equates? = some true) ["pier"]
  obtain ⟨_, _, _, differs, _⟩ := compared.1
  exact ⟨context, seen, rfl, rfl, differs⟩

end Condition
end Gamebook
