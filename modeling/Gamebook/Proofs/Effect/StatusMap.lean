import Gamebook.Proofs.Effect.StatusList

/-!
The laws of status effects as ordered maps. They hold for lists that name a type more than once, too:
what is put in takes the place of the first of its type, and the others of that type go.
-/
namespace Gamebook.StatusEffect
variable {effect : StatusEffect} {effects : List StatusEffect} {type : Value} {name : String}

theorem split_type (type : Value) (effects : List StatusEffect) :
    (∀ other ∈ effects, other.hasType type = false) ∨
      ∃ before old after, effects = before ++ old :: after ∧ old.hasType type = true ∧
        ∀ other ∈ before, other.hasType type = false := by
  cases found : effects.find? (hasType type) with
  | none =>
    refine .inl fun other inside => ?_
    exact eq_false_of_ne_true (List.find?_eq_none.mp found other inside)
  | some old =>
    obtain ⟨here, before, after, whole, new⟩ := List.find?_eq_some_iff_append.mp found
    exact .inr ⟨before, old, after, whole, here, fun other inside => by simpa using new other inside⟩

theorem upsert_new (new : ∀ other ∈ effects, other.hasType effect.type = false) :
    upsert effect effects = effects ++ [effect] := by
  induction effects with
  | nil => rfl
  | cons first rest ih =>
    obtain ⟨differs, others⟩ := List.forall_mem_cons.mp new
    rw [upsert, differs, if_neg Bool.false_ne_true, ih others]
    rfl

theorem upsert_first {before after : List StatusEffect} {old : StatusEffect}
    (new : ∀ other ∈ before, other.hasType effect.type = false)
    (here : old.hasType effect.type = true) :
    upsert effect (before ++ old :: after) = before ++ effect :: remove effect.type after := by
  induction before with
  | nil => exact if_pos here
  | cons first before ih =>
    obtain ⟨differs, others⟩ := List.forall_mem_cons.mp new
    rw [List.cons_append, upsert, differs, if_neg Bool.false_ne_true, ih others]
    rfl

theorem filter_new (new : ∀ other ∈ effects, other.hasType type = false) :
    effects.filter (hasType type) = [] := by
  refine List.filter_eq_nil_iff.mpr fun other inside => ?_
  rw [new other inside]
  exact Bool.false_ne_true

theorem filter_upsert (typed : effect.type = .text name) (effects : List StatusEffect) :
    (upsert effect effects).filter (hasType (.text name)) = [effect] := by
  have own : effect.hasType (.text name) = true := hasType_text_iff.mpr typed
  rw [← typed] at own ⊢
  rcases split_type effect.type effects with new | ⟨before, old, after, rfl, here, new⟩
  · rw [upsert_new new, List.filter_append, filter_new new, List.filter_singleton, own]
    rfl
  · have gone : (remove effect.type after).filter (hasType effect.type) = [] := by
      simp [remove, List.filter_filter]
    rw [upsert_first new here, List.filter_append, filter_new new, List.filter_cons, own, gone]
    rfl

theorem upsert_upsert {second : StatusEffect} (same : second.type = effect.type)
    (own : effect.hasType effect.type = true) (effects : List StatusEffect) :
    upsert second (upsert effect effects) = upsert second effects := by
  rcases split_type effect.type effects with new | ⟨before, old, after, rfl, here, new⟩
  · rw [upsert_new new]
    rw [← same] at new own
    rw [upsert_first new own, upsert_new new]
    rfl
  · rw [upsert_first new here]
    rw [← same] at new own here ⊢
    rw [upsert_first new own, upsert_first new here, remove_remove]

/-- A list into which an effect was put: it is the only one of its type, in the place of the first
old one or last, and without its type the list is what the old one is without it. -/
structure IsPut (effect : StatusEffect) (old put : List StatusEffect) : Prop where
  once : put.filter (hasType effect.type) = [effect]
  inPlace : ∀ before first after, old = before ++ first :: after → first.hasType effect.type = true →
    (∀ other ∈ before, other.hasType effect.type = false) →
    put = before ++ effect :: remove effect.type after
  atEnd : (∀ other ∈ old, other.hasType effect.type = false) → put = old ++ [effect]
  others : remove effect.type put = remove effect.type old

theorem isPut_upsert (typed : effect.type = .text name) (effects : List StatusEffect) :
    IsPut effect effects (upsert effect effects) := by
  have alone := filter_upsert typed effects
  have removed := remove_upsert typed effects
  rw [← typed] at alone removed
  refine ⟨alone, ?_, upsert_new, removed⟩
  rintro before first after rfl here new
  exact upsert_first new here

/-- What is put in place stands there once and alone of its type, a second one of the type replaces
it, and types that differ do so after effects are put in place, removed or counted down. -/
theorem upsert_as_map (typed : effect.type = .text name) (effects : List StatusEffect) :
    IsPut effect effects (upsert effect effects) ∧
    (∀ second : StatusEffect, second.type = .text name →
      upsert second (upsert effect effects) = upsert second effects) ∧
    (Distinct effects → Distinct (upsert effect effects) ∧ (∀ type, Distinct (remove type effects)) ∧
      ((∀ other ∈ effects, other.IsTimed) →
        ∃ lasting, tickAll (effects.map .known) = .ok lasting ∧ Distinct lasting)) := by
  refine ⟨isPut_upsert typed effects, fun second also => ?twice, fun distinct => ?distinct⟩
  case twice =>
    have own : effect.hasType effect.type = true := typed ▸ hasType_text_iff.mpr typed
    exact upsert_upsert (also.trans typed.symm) own effects
  case distinct =>
    refine ⟨upsert_distinct typed distinct, fun type => remove_distinct type distinct, fun timed => ?_⟩
    obtain ⟨lasting, ticked⟩ := tickAll_eq_ok timed
    exact ⟨lasting, ticked, tickAll_distinct ticked distinct⟩

def affliction (name : String) (turns : Value) : StatusEffect := ⟨.text name, .null, turns, .null⟩

theorem upsert_as_map_poison :
    let poisoned := [affliction "poison" (.int 3), affliction "curse" .null, affliction "poison" (.int 1)]
    IsPut (affliction "poison" (.int 5)) poisoned (upsert (affliction "poison" (.int 5)) poisoned) ∧
    upsert (affliction "poison" .null) (upsert (affliction "poison" (.int 5)) poisoned) =
      upsert (affliction "poison" .null) poisoned ∧
    ∃ lasting, tickAll ([affliction "poison" (.int 1), affliction "curse" .null].map .known) =
      .ok lasting ∧ Distinct lasting := by
  intro poisoned
  have typed : (affliction "poison" (.int 5)).type = .text "poison" := rfl
  have distinct : Distinct [affliction "poison" (.int 1), affliction "curse" .null] := by
    simp [Distinct, affliction]
  have timed : ∀ effect ∈ [affliction "poison" (.int 1), affliction "curse" .null], effect.IsTimed := by
    simp [IsTimed, affliction, Value.countable?, Value.number?]
  obtain ⟨put, twice, _⟩ := upsert_as_map typed poisoned
  obtain ⟨_, _, kept⟩ := upsert_as_map typed [affliction "poison" (.int 1), affliction "curse" .null]
  exact ⟨put, twice (affliction "poison" .null) rfl, (kept distinct).2.2 timed⟩

end Gamebook.StatusEffect
