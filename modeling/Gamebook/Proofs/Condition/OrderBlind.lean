import Mathlib.Data.List.Forall2
import Gamebook.Condition.Gate
import Gamebook.Proofs.Table
import Gamebook.Proofs.Value.Sorting

/-!
Conditions do not see in which order objects hold their entries. Two evaluations over values that
differ in nothing else both fail, or both give values that again differ in nothing else.
-/
namespace Gamebook

/-- Two computations fail alike, or give results that are related. -/
inductive Agree {ε δ α β : Type} (related : α → β → Prop) : Except ε α → Except δ β → Prop
  | ok {a : α} {b : β} (each : related a b) : Agree related (.ok a) (.ok b)
  | error {problem : ε} {other : δ} : Agree related (.error problem) (.error other)

namespace Agree
variable {ε δ α β γ ζ : Type} {related : α → β → Prop} {next : γ → ζ → Prop}

theorem bind {a : Except ε α} {b : Except δ β} {f : α → Except ε γ} {g : β → Except δ ζ}
    (agree : Agree related a b) (each : ∀ a b, related a b → Agree next (f a) (g b)) :
    Agree next (a >>= f) (b >>= g) := by
  cases agree with
  | ok relates => exact each _ _ relates
  | error => exact .error

theorem refl (a : Except ε α) : Agree (· = ·) a a := by
  cases a with
  | ok a => exact .ok rfl
  | error problem => exact .error

theorem lift {a : Except Fault α} {b : Except Fault β} (agree : Agree related a b) :
    Agree related (Fault.lift a) (Fault.lift b) := by
  cases agree with
  | ok relates => exact .ok relates
  | error => exact .error

theorem of_map {a b : Except ε α} {view : α → β} (same : a.map view = b.map view) :
    Agree (fun a b => view a = view b) a b := by
  cases a with
  | ok a =>
    cases b with
    | ok b => exact .ok (Except.ok.inj same)
    | error problem => cases same
  | error problem =>
    cases b with
    | ok b => cases same
    | error other => exact .error

end Agree

namespace Value

@[simp] theorem truthy_sorted (value : Value) : value.sorted.truthy = value.truthy := by
  cases value <;> simp [sorted, truthy]

/-- Equal but for the order of the entries of objects. -/
def Alike (a b : Value) : Prop := a.sorted = b.sorted

namespace Alike
variable {a b c d : Value}

theorem refl (a : Value) : a.Alike a := rfl

theorem countable?_eq (alike : a.Alike b) : a.countable? = b.countable? := by
  rw [← countable?_sorted a, alike, countable?_sorted]

theorem same_eq (first : a.Alike b) (second : c.Alike d) : same a c = same b d := by
  rw [← same_sorted a, first, second, same_sorted]

theorem truthy_eq (alike : a.Alike b) : a.truthy = b.truthy := by
  rw [← truthy_sorted a, alike, truthy_sorted]

theorem equals_eq (first : a.Alike b) (second : c.Alike d) : a.equals c = b.equals d := by
  rw [equals, equals, first.same_eq second, ← isNaN_sorted a, first, isNaN_sorted]

end Alike

/-- Whether a value is a list or an object. -/
def isDeep (value : Value) : Bool := value.items?.isSome || value.entries?.isSome

theorem Alike.eq_or_deep {a b : Value} (alike : a.Alike b) :
    a = b ∨ a.isDeep = true ∧ b.isDeep = true := by
  have flat (value : Value) (shallow : value.isDeep = false) : value.sorted = value := by
    cases value <;> simp_all [isDeep, items?, entries?, sorted]
  have deep (value : Value) : value.sorted.isDeep = value.isDeep := by
    cases value <;> simp [isDeep, items?, entries?, sorted]
  have depths : a.isDeep = b.isDeep := by rw [← deep a, alike, deep]
  cases shallow : a.isDeep with
  | true => exact .inr ⟨rfl, depths.symm.trans shallow⟩
  | false =>
    refine .inl ?_
    rw [← flat a shallow, alike, flat b (depths.symm.trans shallow)]

end Value

namespace Condition
open Value (Alike)
variable {a b c d : Value}

theorem toNumber_eq (alike : a.Alike b) : toNumber a = toNumber b := by
  have unsorted (value : Value) : toNumber value.sorted = toNumber value := by
    cases value <;> simp [Value.sorted, toNumber, Value.countable?, Value.number?, Value.kind]
  rw [← unsorted a, alike, unsorted]

theorem looselyEqual_eq (first : a.Alike b) (second : c.Alike d) :
    looselyEqual a c = looselyEqual b d := by
  have unsorted (a b : Value) : looselyEqual a.sorted b.sorted = looselyEqual a b := by
    have equals : a.sorted.equals b.sorted = a.equals b :=
      Alike.equals_eq (Value.sorted_sorted a) (Value.sorted_sorted b)
    cases a <;> cases b <;>
      simp_all [Value.sorted, looselyEqual, isScalar, Value.isNull]
  rw [← unsorted a, first, second, unsorted]

theorem strictlyEqual_eq (first : a.Alike b) (second : c.Alike d) :
    strictlyEqual a c = strictlyEqual b d := by
  have unsorted (a b : Value) : strictlyEqual a.sorted b.sorted = strictlyEqual a b := by
    have equals : a.sorted.equals b.sorted = a.equals b :=
      Alike.equals_eq (Value.sorted_sorted a) (Value.sorted_sorted b)
    cases a <;> cases b <;> simp_all [Value.sorted, strictlyEqual, Value.number?, Value.kind]
  rw [← unsorted a, first, second, unsorted]

theorem ordered_eq {texts : String → String → Bool} {numbers : Number → Number → Bool}
    (first : a.Alike b) (second : c.Alike d) :
    ordered texts numbers a c = ordered texts numbers b d := by
  have unsorted (a b : Value) : ordered texts numbers a.sorted b.sorted = ordered texts numbers a b := by
    have numberA : toNumber a.sorted = toNumber a := toNumber_eq (Value.sorted_sorted a)
    have numberB : toNumber b.sorted = toNumber b := toNumber_eq (Value.sorted_sorted b)
    cases a <;> cases b <;> simp_all [Value.sorted, ordered]
  rw [← unsorted a, first, second, unsorted]

theorem Comparison.holds_eq (comparison : Comparison) (first : a.Alike b) (second : c.Alike d) :
    comparison.holds a c = comparison.holds b d := by
  cases comparison <;>
    simp only [holds, looselyEqual_eq first second, strictlyEqual_eq first second,
      ordered_eq first second]

theorem contains_eq (dict : Dict) (alike : a.Alike b) :
    Assoc.contains dict a = Assoc.contains dict b := by
  unfold Assoc.contains
  exact congrArg dict.any (funext fun entry => (Alike.refl entry.1).same_eq alike)

theorem get?_eq (dict : Dict) (alike : a.Alike b) : Assoc.get? dict a = Assoc.get? dict b := by
  unfold Assoc.get?
  have found : (fun entry : Value × Value => entry.1 == a) = fun entry => entry.1 == b :=
    funext fun entry => (Alike.refl entry.1).same_eq alike
  rw [found]

theorem isKey_eq (alike : a.Alike b) : a.isKey = b.isKey := by
  rw [← Value.isKey_sorted a, alike, Value.isKey_sorted]

theorem isKeyOf_eq {dict other : Dict} (same : dict.sorted = other.sorted) (alike : a.Alike b) :
    a.isKeyOf dict = b.isKeyOf other := by
  rw [Value.isKeyOf, Value.isKeyOf, isKey_eq alike, contains_eq dict alike,
    ← Dict.contains_sorted dict, same, Dict.contains_sorted]

theorem holds_of_entries {entries : Dict} (found : a.entries? = some entries) :
    a.holds b = b.isKeyOf entries := by
  cases a <;> simp_all [Value.holds, Value.items?, Value.entries?]

theorem holds_eq (first : a.Alike b) (second : c.Alike d) : a.holds c = b.holds d := by
  have unsorted (a c : Value) : a.sorted.holds c.sorted = a.holds c := by
    have entries := Value.entries?_sorted a
    cases a with
    | text content => cases c <;> rfl
    | list items =>
      simpa [Value.holds, Value.sorted, Value.items?] using Value.isAmong_sorted c items
    | tuple items =>
      simpa [Value.holds, Value.sorted, Value.items?] using Value.isAmong_sorted c items
    | object fields =>
      rw [holds_of_entries entries, holds_of_entries rfl]
      exact isKeyOf_eq (Dict.sorted_sorted _) (Value.sorted_sorted c)
    | view fields =>
      rw [holds_of_entries entries, holds_of_entries rfl]
      exact isKeyOf_eq (Dict.sorted_sorted _) (Value.sorted_sorted c)
    | _ => simp [Value.holds, Value.sorted, Value.items?, Value.entries?]
  rw [← unsorted a, first, second, unsorted]

theorem isMember_eq (first : a.Alike b) (second : c.Alike d) : isMember c a = isMember d b := by
  have unsorted (a c : Value) : isMember c.sorted a.sorted = isMember c a := by
    have holds : a.sorted.holds c.sorted = a.holds c :=
      holds_eq (Value.sorted_sorted a) (Value.sorted_sorted c)
    cases a with
    | text content => cases c <;> simp_all [isMember, Value.sorted]
    | _ => simp_all [isMember, Value.sorted, Value.kind]
  rw [← unsorted a, first, second, unsorted]

/-- Two searches found nothing, or values that are alike. -/
def FoundAlike (found other : Option Value) : Prop :=
  found.map Value.sorted = other.map Value.sorted

/-- What is found in a sorted value is what sorting makes of what is found in the value. -/
theorem stepInto_sorted (value : Value) (part : List Char) :
    stepInto value.sorted part = (stepInto value part).map (·.map Value.sorted) := by
  have items (items : List Value) : itemAt (items.map Value.sorted) part =
      (itemAt items part).map (·.map Value.sorted) := by
    unfold itemAt
    split
    · split
      · simp [Except.map]
      · rfl
    · rfl
  cases value with
  | object fields => exact congrArg Except.ok (Table.get?_sorted fields _)
  | view entries =>
    rw [Value.sorted_view]
    exact congrArg Except.ok (Dict.get?_sorted entries _)
  | list list => simpa [Value.sorted, stepInto] using items list
  | tuple list => simpa [Value.sorted, stepInto] using items list
  | _ => rfl

theorem stepInto_agree (alike : a.Alike b) (part : List Char) :
    Agree FoundAlike (stepInto a part) (stepInto b part) := by
  have same : (stepInto a part).map (·.map Value.sorted) =
      (stepInto b part).map (·.map Value.sorted) := by
    rw [← stepInto_sorted, alike, stepInto_sorted]
  exact .of_map same

theorem follow_agree (alike : a.Alike b) (parts : List (List Char)) :
    Agree FoundAlike (follow a parts) (follow b parts) := by
  induction parts generalizing a b with
  | nil => exact .ok (congrArg some alike)
  | cons part parts ih =>
    refine (stepInto_agree alike part).bind fun next other relates => ?_
    cases next with
    | some next =>
      cases other with
      | some other => exact ih (Option.some.inj relates)
      | none => cases relates
    | none =>
      cases other with
      | some other => cases relates
      | none => exact .ok rfl

theorem pathParts_agree (alike : a.Alike b) : Agree (· = ·) (pathParts a) (pathParts b) := by
  have deep (value : Value) (deep : value.isDeep = true) : ∃ failure, pathParts value = .error failure := by
    unfold pathParts
    split
    · cases deep
    · cases deep
    · cases deep
    · split <;> exact ⟨_, rfl⟩
  rcases alike.eq_or_deep with rfl | ⟨first, second⟩
  · exact .refl _
  · obtain ⟨_, failed⟩ := deep a first
    obtain ⟨_, otherFailed⟩ := deep b second
    rw [failed, otherFailed]
    exact .error

namespace Context

/-- The tables of two contexts are alike, and everything else is the same. -/
structure Alike (context other : Context) : Prop where
  stats : context.stats.sorted = other.stats.sorted
  wallets : context.wallets.sorted = other.wallets.sorted
  inventory : context.inventory.sorted = other.inventory.sorted
  flags : context.flags.sorted = other.flags.sorted
  statusEffects : context.statusEffects = other.statusEffects
  hasStatusEffect : context.hasStatusEffect = other.hasStatusEffect
  visitedNodes : context.visitedNodes = other.visitedNodes
  hasVisited : context.hasVisited = other.hasVisited
  currentNodeId : context.currentNodeId = other.currentNodeId
  choiceCount : context.choiceCount = other.choiceCount

theorem Alike.root {context other : Context} (alike : context.Alike other) :
    context.root.Alike other.root := by
  have entries (a b : Dict) (same : a.map (fun entry => (entry.1, entry.2.sorted)) =
      b.map (fun entry => (entry.1, entry.2.sorted))) : (Value.view a).Alike (.view b) := by
    rw [Value.Alike, Value.sorted_view, Value.sorted_view, Dict.sorted, same, ← Dict.sorted]
  refine entries _ _ ?_
  simp [Dict.ofTable, Value.sorted_view, alike.stats, alike.wallets, alike.inventory, alike.flags,
    alike.statusEffects, alike.hasStatusEffect, alike.visitedNodes, alike.hasVisited,
    alike.currentNodeId, alike.choiceCount]

end Context

theorem lookup_agree {context other : Context} (contexts : context.Alike other) (paths : a.Alike b) :
    Agree FoundAlike (lookup context a) (lookup other b) := by
  refine (pathParts_agree paths).bind ?_
  rintro parts _ rfl
  cases parts with
  | none => exact .ok (congrArg some contexts.root)
  | some parts => exact (follow_agree contexts.root parts).lift

theorem isMissing_agree {context other : Context} (contexts : context.Alike other)
    (paths : a.Alike b) : Agree (· = ·) (isMissing context a) (isMissing other b) := by
  refine (lookup_agree contexts paths).bind fun found otherFound relates => ?_
  cases found with
  | none =>
    cases otherFound with
    | none => exact .ok rfl
    | some value => cases relates
  | some value =>
    cases otherFound with
    | none => cases relates
    | some otherValue =>
      have alike : value.Alike otherValue := Option.some.inj relates
      rcases alike.eq_or_deep with rfl | ⟨first, second⟩
      · exact .refl _
      · cases value <;> cases otherValue <;> first | cases first; done | cases second; done | exact .ok rfl

theorem forall₂_alike_iff {items others : List Value} :
    List.Forall₂ Value.Alike items others ↔ items.map Value.sorted = others.map Value.sorted := by
  constructor
  · intro alike
    induction alike with
    | nil => rfl
    | cons first rest ih => rw [List.map_cons, List.map_cons, first, ih]
  · intro same
    induction items generalizing others with
    | nil =>
      obtain rfl := List.map_eq_nil_iff.mp same.symm
      exact .nil
    | cons item items ih =>
      cases others with
      | nil => cases same
      | cons other others =>
        obtain ⟨first, rest⟩ := List.cons.inj same
        exact .cons first (ih rest)

theorem alike_list {items others : List Value} (alike : List.Forall₂ Value.Alike items others) :
    (Value.list items).Alike (.list others) := by
  simp [Value.Alike, Value.sorted, forall₂_alike_iff.mp alike]

theorem compareAll_agree (comparison : Comparison) {operands others : List Value}
    (alike : List.Forall₂ Value.Alike operands others) :
    Agree Value.Alike (compareAll comparison operands) (compareAll comparison others) := by
  have same : compareAll comparison operands = compareAll comparison others := by
    rcases alike with _ | ⟨first, _ | ⟨second, _ | ⟨third, _ | _⟩⟩⟩
    · rfl
    · rfl
    · simp only [compareAll, comparison.holds_eq first second]
    · simp only [compareAll, comparison.holds_eq first second, comparison.holds_eq second third]
    · rfl
  rw [same]
  cases compareAll comparison others with
  | ok value => exact .ok rfl
  | error failure => exact .error

/-- A predicate that does not see the order of entries either. -/
def Predicate.OrderBlind (predicate : Predicate) : Prop :=
  ∀ context other operands others, context.Alike other → List.Forall₂ Value.Alike operands others →
    Agree Value.Alike (predicate context operands) (predicate other others)

def Predicates.OrderBlind (predicates : Predicates) : Prop :=
  ∀ entry ∈ predicates, Predicate.OrderBlind entry.2

section
variable {context other : Context} {predicates : Predicates}

mutual

theorem evaluate_agree (contexts : context.Alike other) (blind : predicates.OrderBlind)
    (expr : Expr) :
    Agree Value.Alike (evaluate context predicates expr) (evaluate other predicates expr) := by
  cases expr with
  | const value => exact .ok rfl
  | array items =>
    exact (evaluateItems_agree contexts blind items).bind fun _ _ alike => .ok (alike_list alike)
  | lookup path fallback =>
    refine (evaluate_agree contexts blind path).bind fun _ _ paths => ?_
    refine (lookup_agree contexts paths).bind fun found otherFound relates => ?_
    cases found with
    | some value =>
      cases otherFound with
      | some otherValue => exact .ok (Option.some.inj relates)
      | none => cases relates
    | none =>
      cases otherFound with
      | some otherValue => cases relates
      | none => exact evaluateFallback_agree contexts blind fallback
  | missing paths =>
    exact (evaluateMissing_agree contexts blind paths).bind fun _ _ alike => .ok (alike_list alike)
  | compare comparison operands =>
    exact (evaluateItems_agree contexts blind operands).bind fun _ _ alike =>
      compareAll_agree comparison alike
  | all operands => exact evaluateAll_agree contexts blind rfl operands
  | any operands => exact evaluateAny_agree contexts blind rfl operands
  | not operand =>
    refine (evaluate_agree contexts blind operand).bind fun _ _ alike => ?_
    rw [alike.truthy_eq]
    exact .ok rfl
  | truth operand =>
    refine (evaluate_agree contexts blind operand).bind fun _ _ alike => ?_
    rw [alike.truthy_eq]
    exact .ok rfl
  | branch parts => exact evaluateBranch_agree contexts blind parts
  | arithmetic operation operands =>
    refine (evaluateNumbers_agree contexts blind operands).bind ?_
    rintro numbers _ rfl
    refine (Agree.refl (calculate operation numbers)).bind ?_
    rintro result _ rfl
    exact .ok rfl
  | member needle haystack =>
    refine (evaluate_agree contexts blind needle).bind fun _ _ needles => ?_
    refine (evaluate_agree contexts blind haystack).bind fun _ _ haystacks => ?_
    rw [isMember_eq haystacks needles]
    refine (Agree.refl _).bind ?_
    rintro answer _ rfl
    exact .ok rfl
  | predicate name operands =>
    unfold evaluate
    split
    · exact .error
    · rename_i predicate found
      obtain ⟨entry, member, _, rfl⟩ : ∃ entry ∈ predicates, (entry.1 == name) = true ∧
          entry.2 = predicate := Assoc.mem_of_get? found
      exact (evaluateItems_agree contexts blind operands).bind fun _ _ alike =>
        blind entry member context other _ _ contexts alike
  | invalid reason => exact .error
termination_by structural expr

theorem evaluateItems_agree (contexts : context.Alike other) (blind : predicates.OrderBlind)
    (items : List Expr) : Agree (List.Forall₂ Value.Alike) (evaluateItems context predicates items)
      (evaluateItems other predicates items) := by
  cases items with
  | nil => exact .ok .nil
  | cons item items =>
    refine (evaluate_agree contexts blind item).bind fun value otherValue first => ?_
    exact (evaluateItems_agree contexts blind items).bind fun _ _ rest => .ok (.cons first rest)
termination_by structural items

theorem evaluateNumbers_agree (contexts : context.Alike other) (blind : predicates.OrderBlind)
    (items : List Expr) : Agree (· = ·) (evaluateNumbers context predicates items)
      (evaluateNumbers other predicates items) := by
  cases items with
  | nil => exact .ok rfl
  | cons item items =>
    refine (evaluate_agree contexts blind item).bind fun _ _ alike => ?_
    rw [toNumber_eq alike]
    refine (Agree.refl _).bind ?_
    rintro number _ rfl
    refine (evaluateNumbers_agree contexts blind items).bind ?_
    rintro rest _ rfl
    exact .ok rfl
termination_by structural items

theorem evaluateFallback_agree (contexts : context.Alike other) (blind : predicates.OrderBlind)
    (fallback : Option Expr) : Agree Value.Alike (evaluateFallback context predicates fallback)
      (evaluateFallback other predicates fallback) := by
  cases fallback with
  | none => exact .ok rfl
  | some fallback => exact evaluate_agree contexts blind fallback
termination_by structural fallback

theorem evaluateMissing_agree (contexts : context.Alike other) (blind : predicates.OrderBlind)
    (paths : List Expr) : Agree (List.Forall₂ Value.Alike) (evaluateMissing context predicates paths)
      (evaluateMissing other predicates paths) := by
  cases paths with
  | nil => exact .ok .nil
  | cons path paths =>
    refine (evaluate_agree contexts blind path).bind fun _ _ first => ?_
    refine (isMissing_agree contexts first).bind ?_
    rintro isGone _ rfl
    refine (evaluateMissing_agree contexts blind paths).bind fun _ _ rest => ?_
    cases isGone with
    | true => exact .ok (.cons first rest)
    | false => exact .ok rest
termination_by structural paths

theorem evaluateAll_agree (contexts : context.Alike other) (blind : predicates.OrderBlind)
    {last otherLast : Value} (lasts : last.Alike otherLast) (operands : List Expr) :
    Agree Value.Alike (evaluateAll context predicates last operands)
      (evaluateAll other predicates otherLast operands) := by
  cases operands with
  | nil => exact .ok lasts
  | cons operand operands =>
    refine (evaluate_agree contexts blind operand).bind fun value otherValue alike => ?_
    rw [alike.truthy_eq]
    split
    · exact evaluateAll_agree contexts blind alike operands
    · exact .ok alike
termination_by structural operands

theorem evaluateAny_agree (contexts : context.Alike other) (blind : predicates.OrderBlind)
    {last otherLast : Value} (lasts : last.Alike otherLast) (operands : List Expr) :
    Agree Value.Alike (evaluateAny context predicates last operands)
      (evaluateAny other predicates otherLast operands) := by
  cases operands with
  | nil => exact .ok lasts
  | cons operand operands =>
    refine (evaluate_agree contexts blind operand).bind fun value otherValue alike => ?_
    rw [alike.truthy_eq]
    split
    · exact .ok alike
    · exact evaluateAny_agree contexts blind alike operands
termination_by structural operands

theorem evaluateBranch_agree (contexts : context.Alike other) (blind : predicates.OrderBlind)
    (parts : List Expr) : Agree Value.Alike (evaluateBranch context predicates parts)
      (evaluateBranch other predicates parts) := by
  rcases parts with _ | ⟨condition, _ | ⟨result, rest⟩⟩
  · exact .ok rfl
  · exact evaluate_agree contexts blind condition
  · refine (evaluate_agree contexts blind condition).bind fun _ _ alike => ?_
    rw [alike.truthy_eq]
    split
    · exact evaluate_agree contexts blind result
    · exact evaluateBranch_agree contexts blind rest
termination_by structural parts

end

end

section
variable {context other : Context}

theorem isMet_eq {predicates : Predicates} (contexts : context.Alike other)
    (blind : predicates.OrderBlind) (condition : ConditionDef) :
    isMet predicates context condition = isMet predicates other condition := by
  unfold isMet
  have agree := evaluate_agree contexts blind condition.expression
  revert agree
  generalize evaluate context predicates condition.expression = first
  generalize evaluate other predicates condition.expression = second
  rintro (⟨alike⟩ | _)
  · exact congrArg Except.ok alike.truthy_eq
  · rfl

theorem failures_eq {predicates : Predicates} (contexts : context.Alike other)
    (blind : predicates.OrderBlind) (index : Nat) (conditions : List ConditionDef) :
    failures predicates context index conditions = failures predicates other index conditions := by
  induction conditions generalizing index with
  | nil => rfl
  | cons condition conditions ih => simp only [failures, isMet_eq contexts blind condition, ih]

end

end Condition
end Gamebook
