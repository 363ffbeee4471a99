import Gamebook.Condition.Predicates
import Gamebook.Proofs.Condition.OrderBlind

/-!
The predicates that every game has do not see the order of entries.
-/
namespace Gamebook.Condition
open Value (Alike)

section
variable {context other : Context} {a b : Value}

theorem entryOf_agree {dict otherDict : Dict} (same : dict.sorted = otherDict.sorted)
    (keys : a.Alike b) : Agree FoundAlike ( entry? dict a) ( entry? otherDict b) := by
  unfold entry?
  rw [isKey_eq keys, get?_eq dict keys]
  split
  · refine .ok ?_
    rw [FoundAlike, ← Dict.get?_sorted, ← Dict.get?_sorted, same]
  · exact .error

theorem holdsItem_agree (contexts : context.Alike other) (keys : a.Alike b) :
    Agree (· = ·) (holdsItem context a) (holdsItem other b) := by
  refine (entryOf_agree contexts.inventory keys).bind fun found otherFound relates => .ok ?_
  cases found with
  | none =>
    cases otherFound with
    | none => rfl
    | some _ => cases relates
  | some value =>
    cases otherFound with
    | none => cases relates
    | some otherValue =>
      have alike : value.Alike otherValue := Option.some.inj relates
      simp [isPositive, alike.countable?_eq]

theorem holdsItems_agree (contexts : context.Alike other) {keys others : List Value}
    (alike : List.Forall₂ Value.Alike keys others) :
    Agree (· = ·) (holdsItems context keys) (holdsItems other others) := by
  induction alike with
  | nil => exact .ok rfl
  | cons first rest ih =>
    refine (holdsItem_agree contexts first).bind ?_
    rintro isHeld _ rfl
    cases isHeld with
    | true => exact ih
    | false => exact .ok rfl

theorem isFilled_eq (alike : a.Alike b) : a.isFilled = b.isFilled := by
  have unsorted (value : Value) : value.sorted.isFilled = value.isFilled := by
    unfold Value.isFilled
    rw [Value.entries?_sorted, Value.truthy_sorted]
    cases value.entries? with
    | none => rfl
    | some entries =>
      have empty : (Dict.sorted entries).isEmpty = entries.isEmpty := by
        rw [Bool.eq_iff_iff, List.isEmpty_iff_length_eq_zero, List.isEmpty_iff_length_eq_zero,
          Dict.length_sorted]
      exact congrArg not empty
  rw [← unsorted a, alike, unsorted]

theorem amount_agree {dict otherDict : Dict} (same : dict.sorted = otherDict.sorted)
    (keys : a.Alike b) : Agree Value.Alike (amount dict a) (amount otherDict b) := by
  refine (entryOf_agree same keys).bind fun found otherFound relates => ?_
  cases found with
  | none =>
    cases otherFound with
    | none => exact .ok rfl
    | some _ => cases relates
  | some value =>
    cases otherFound with
    | none => cases relates
    | some otherValue =>
      have alike : value.Alike otherValue := Option.some.inj relates
      refine .ok ?_
      rw [isFilled_eq alike]
      split
      · exact alike
      · rfl

theorem argument_agree (name : String) {operands others : List Value}
    (alike : List.Forall₂ Value.Alike operands others) :
    Agree Value.Alike (argument name operands) (argument name others) := by
  cases alike with
  | nil => exact .error
  | cons first rest => exact .ok first

/-- The keys that `hasItems` asks for. -/
def askedKeys (operands : List Value) : List Value :=
  match operands with
  | [operand] => operand.items?.getD operands
  | _ => operands

theorem askedKeys_alike {operands others : List Value}
    (alike : List.Forall₂ Value.Alike operands others) :
    List.Forall₂ Value.Alike (askedKeys operands) (askedKeys others) := by
  rcases alike with _ | ⟨first, _ | ⟨second, rest⟩⟩
  · exact .nil
  · rename_i operand other
    have items : operand.items?.map (·.map Value.sorted) = other.items?.map (·.map Value.sorted) := by
      rw [← Value.items?_sorted, first, Value.items?_sorted]
    unfold askedKeys
    dsimp only
    revert items
    cases operand.items? with
    | none => cases other.items? with
      | none => exact fun _ => .cons first .nil
      | some _ => nofun
    | some list => cases other.items? with
      | none => nofun
      | some otherList => exact fun same => forall₂_alike_iff.mpr (Option.some.inj same)
  · exact .cons first (.cons second rest)

theorem defaultPredicates_orderBlind : Predicates.OrderBlind defaultPredicates := by
  have each : Predicate.OrderBlind hasItem ∧ Predicate.OrderBlind hasItems ∧
      Predicate.OrderBlind itemCount ∧ Predicate.OrderBlind hasVisitedNode ∧
      Predicate.OrderBlind hasStatusEffect ∧ Predicate.OrderBlind walletBalance := by
    refine ⟨?_, ?_, ?_, ?_, ?_, ?_⟩ <;> intro context other operands others contexts alike
    · refine (argument_agree _ alike).bind fun _ _ keys => ?_
      refine (holdsItem_agree contexts keys).bind ?_
      rintro answer _ rfl
      exact .ok rfl
    · refine (holdsItems_agree contexts (askedKeys_alike alike)).bind ?_
      rintro answer _ rfl
      exact .ok rfl
    · exact (argument_agree _ alike).bind fun _ _ keys => amount_agree contexts.inventory keys
    · refine (argument_agree _ alike).bind fun _ _ keys => ?_
      rw [contexts.hasVisited, isKeyOf_eq rfl keys]
      refine (Agree.refl _).bind ?_
      rintro answer _ rfl
      exact .ok rfl
    · refine (argument_agree _ alike).bind fun _ _ keys => ?_
      rw [contexts.hasStatusEffect, isKeyOf_eq rfl keys]
      refine (Agree.refl _).bind ?_
      rintro answer _ rfl
      exact .ok rfl
    · exact (argument_agree _ alike).bind fun _ _ keys => amount_agree contexts.wallets keys
  intro entry member
  simp only [defaultPredicates, List.mem_cons, List.not_mem_nil, or_false] at member
  rcases member with rfl | rfl | rfl | rfl | rfl | rfl
  · exact each.1
  · exact each.2.1
  · exact each.2.2.1
  · exact each.2.2.2.1
  · exact each.2.2.2.2.1
  · exact each.2.2.2.2.2

end

end Gamebook.Condition
