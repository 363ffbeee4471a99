import Gamebook.Proofs.Play.Escape

/-!
The gate of a choice. What is refused there is told from what fails behind it, and what is shown of
a choice beforehand is what the gate goes by, but for two things: an ending shows its choices as
open though it lets none through, and a seed that cannot be used stops every call before the gate.
-/
namespace Gamebook

/-- The refusals of an index at the gate. -/
inductive Failure.IsChoiceRefusal : Failure → Prop
  | noChoice (node : String) (index : Value) (count : Nat) :
      IsChoiceRefusal (.noSuchChoice node index count)
  | locked (node : String) (index : Int) (failed : List FailedCondition) :
      IsChoiceRefusal (.conditionsNotMet node index failed)

/-- The ways of failing behind the gate of a selection, in the order in which they come up. -/
inductive Navigator.FailsBehind [Host] (navigator : Navigator) (now : Timestamp) (state : GameState)
    (selection : Selection) : Failure → Prop
  | target (absent : navigator.stories.node? selection.choice.target = none) :
      FailsBehind navigator now state selection (.notFound .node (.text selection.choice.target))
  | roll (target : StoryNode) (before after : List RollRequirement) (requirement : RollRequirement)
      {failure : Failure}
      (leads : navigator.node (.text selection.choice.target) = .ok target)
      (required : selection.choice.rollRequirements = before ++ requirement :: after)
      (rollable : ∀ earlier ∈ before, earlier.verdict state.stats = .ok ())
      (refused : requirement.verdict state.stats = .error failure) :
      FailsBehind navigator now state selection failure
  | effects (target : StoryNode) {fault : Fault}
      (leads : navigator.node (.text selection.choice.target) = .ok target)
      (rollable : ∀ requirement ∈ selection.choice.rollRequirements,
        requirement.verdict state.stats = .ok ())
      (stuck : Navigator.advance now selection target state = .error (.fault fault)) :
      FailsBehind navigator now state selection (.fault fault)

theorem RollRequirement.verdict_fails {allowed : Failure → Prop}
    (faults : ∀ fault, allowed (.fault fault)) (stat : ∀ stat, allowed (.unknownStat stat))
    {requirement : RollRequirement}
    (readable : FailsBy allowed (DiceFormula.ofText requirement.formulaText)) (stats : Loose Dict) :
    FailsBy allowed (requirement.verdict stats) := by
  refine failsBy_bind (failsBy_lift faults) fun known _ => ?_
  dsimp only
  split
  · exact failsBy_error (stat _)
  · split
    · exact failsBy_error (faults _)
    · exact failsBy_bind (checkFormula_fails faults readable _) fun formula _ => failsBy_ok ()

namespace Navigator
variable {navigator : Navigator} {now : Timestamp} {state : GameState} {index : Value}
  {failure : Failure} {selection : Selection}

theorem FailsBehind.not_refusal [Host] (fails : navigator.FailsBehind now state selection failure) :
    ¬ failure.IsChoiceRefusal := by
  cases fails with
  | target absent => nofun
  | effects target leads rollable stuck => nofun
  | roll target before after requirement leads required rollable refused =>
    have readable : FailsBy (fun failure => ¬ failure.IsChoiceRefusal)
        (DiceFormula.ofText requirement.formulaText) :=
      DiceFormula.ofText_fails (fun _ => nofun) (fun _ => nofun) (fun _ => nofun) _
    exact RollRequirement.verdict_fails (fun _ => nofun) (fun _ => nofun) readable state.stats _
      refused

theorem foretell_eq_error [Host] (gated : navigator.gate state index = .ok selection) :
    navigator.foretell now state index = .error failure ↔
      navigator.FailsBehind now state selection failure := by
  unfold foretell
  rw [gated]
  constructor
  · intro failed
    rcases bind_eq_error.mp failed with ⟨⟨⟩⟩ | ⟨_, ⟨⟩, failed⟩
    rcases bind_eq_error.mp failed with missing | ⟨target, leads, failed⟩
    · obtain ⟨absent, rfl⟩ := node_text_eq_error.mp missing
      exact .target absent
    rcases bind_eq_error.mp failed with refused | ⟨_, rolled, failed⟩
    · obtain ⟨before, requirement, after, required, rollable, refused⟩ := forM_eq_error.mp refused
      exact .roll target before after requirement leads required rollable refused
    have stuck := (bind_eq_error.mp failed).resolve_right (by rintro ⟨_, _, ⟨⟩⟩)
    have faulty : FailsBy (fun failure => ∃ fault, failure = .fault fault)
        (advance now selection target state) := advance_fails (fun fault => ⟨fault, rfl⟩) _ _
    obtain ⟨fault, rfl⟩ := faulty _ stuck
    exact .effects target leads (forM_eq_ok.mp rolled) stuck
  · intro fails
    refine bind_eq_error.mpr (.inr ⟨selection, rfl, ?_⟩)
    cases fails with
    | target absent => exact bind_eq_error.mpr (.inl (node_text_eq_error.mpr ⟨absent, rfl⟩))
    | roll target before after requirement leads required rollable refused =>
      refine bind_eq_error.mpr (.inr ⟨target, leads, bind_eq_error.mpr (.inl ?_)⟩)
      exact forM_eq_error.mpr ⟨before, requirement, after, required, rollable, refused⟩
    | effects target leads rollable stuck =>
      refine bind_eq_error.mpr (.inr ⟨target, leads, ?_⟩)
      refine bind_eq_error.mpr (.inr ⟨⟨⟩, forM_eq_ok.mpr rollable, ?_⟩)
      exact bind_eq_error.mpr (.inl stuck)

theorem foretellChoice_eq_error [Host] : navigator.foretellChoice now state index = .error failure ↔
    (∃ fault, nextSeed? state = .error fault ∧ failure = .fault fault) ∨
      (∃ seed, nextSeed? state = .ok seed) ∧ (navigator.gate state index = .error failure ∨
        ∃ selection, navigator.gate state index = .ok selection ∧
          navigator.FailsBehind now state selection failure) := by
  refine bind_eq_error.trans (or_congr Fault.lift_eq_error ?_)
  simp only [Fault.lift_eq_ok, exists_and_right]
  refine and_congr_right fun _ => ?_
  cases gated : navigator.gate state index with
  | ok selection => simp [foretell_eq_error gated]
  | error problem => 
    unfold foretell
    rw [gated]
    constructor
    · rintro ⟨⟩
      exact .inl rfl
    · rintro (⟨⟨⟩⟩ | ⟨_, ⟨⟩, _⟩)
      rfl

/-- The gate lets a selection through, or stops it where it is made, looked at, or found locked. -/
theorem gate_eq_error_iff : navigator.gate state index = .error failure ↔
    navigator.select state index = .error failure ∨
      ∃ selection, navigator.select state index = .ok selection ∧
        (navigator.availability selection.choice state = .error failure ∨
          ∃ availability, navigator.availability selection.choice state = .ok availability ∧
            availability.available = false ∧
            failure = .conditionsNotMet selection.node.id selection.index availability.failed) := by
  refine bind_eq_error.trans (or_congr_right (exists_congr fun selection =>
    and_congr_right fun _ => ?_))
  refine bind_eq_error.trans (or_congr_right (exists_congr fun availability =>
    and_congr_right fun _ => ?_))
  cases opened : availability.available with
  | true => exact ⟨nofun, fun both => nomatch both.1⟩
  | false => exact ⟨by rintro ⟨⟩; exact ⟨rfl, rfl⟩, by rintro ⟨_, rfl⟩; rfl⟩

theorem gate_eq_ok_iff : navigator.gate state index = .ok selection ↔
    navigator.select state index = .ok selection ∧
      ∃ availability, navigator.availability selection.choice state = .ok availability ∧
        availability.available = true := by
  constructor
  · intro gated
    obtain ⟨chosen, selected, rest⟩ := bind_eq_ok.mp gated
    obtain ⟨availability, checked, rest⟩ := bind_eq_ok.mp rest
    cases opened : availability.available with
    | true =>
      rw [opened] at rest
      obtain rfl := pure_eq_ok.mp rest
      exact ⟨selected, availability, checked, opened⟩
    | false =>
      rw [opened] at rest
      cases rest
  · rintro ⟨selected, availability, checked, opened⟩
    refine bind_eq_ok.mpr ⟨selection, selected, bind_eq_ok.mpr ⟨availability, checked, ?_⟩⟩
    rw [opened]
    rfl

/-- An index of the list of choices names its choice, unless the story ends there. -/
theorem choiceAt_place {node : StoryNode} {place : Nat} {choice : StoryChoice}
    (offered : node.choices[place]? = some choice) : choiceAt node (.int place) =
      if node.isTerminal then refuseIndex node (.int place) 0 else .ok ⟨node, place, choice⟩ := by
  have natural : ¬ (place : Int) < 0 := by omega
  unfold choiceAt
  dsimp only
  rw [if_neg natural, Int.toNat_natCast, offered]

variable {σ : Type} {generator : Generator σ}

/-- Refusals come from the gate alone, and only to calls whose seed can be used. -/
theorem makeChoice_refuses [Host] {dice : σ} (returns : generator.Returns dice) (now : Timestamp) :
    (∃ failure after, navigator.makeChoice generator now state index dice = .error failure after ∧
        failure.IsChoiceRefusal) ↔
      (∃ seed, nextSeed? state = .ok seed) ∧
        ∃ failure, navigator.gate state index = .error failure ∧ failure.IsChoiceRefusal := by
  constructor
  · rintro ⟨failure, after, failed, refusal⟩
    rcases foretellChoice_eq_error.mp ((makeChoice_eq_error returns).mp ⟨after, failed⟩) with
      ⟨fault, _, rfl⟩ | ⟨seeded, stopped | ⟨_, _, fails⟩⟩
    · cases refusal
    · exact ⟨seeded, failure, stopped, refusal⟩
    · exact absurd refusal fails.not_refusal
  · rintro ⟨seeded, failure, stopped, refusal⟩
    obtain ⟨after, failed⟩ := (makeChoice_eq_error returns).mpr
      (foretellChoice_eq_error.mpr (.inr ⟨seeded, .inl stopped⟩))
    exact ⟨failure, after, failed, refusal⟩

section
variable {node : StoryNode} {place : Nat} {choice : StoryChoice}

/-- A choice of the current node is refused if it is locked, or the story ends there. -/
theorem gate_refuses {availability : Availability} (here : navigator.currentNode state = .ok node)
    (offered : node.choices[place]? = some choice)
    (checked : navigator.availability choice state = .ok availability) :
    (∃ failure, navigator.gate state (.int place) = .error failure ∧ failure.IsChoiceRefusal) ↔
      if node.isTerminal then (Value.int place).isWritable = true
      else availability.available = false := by
  have selects : navigator.select state (.int place) = choiceAt node (.int place) := by
    rw [select, here]
    rfl
  simp only [gate_eq_error_iff, selects, choiceAt_place offered]
  cases node.isTerminal with
  | true =>
    rw [if_pos rfl, if_pos rfl]
    unfold refuseIndex Failure.showing
    cases (Value.int place).isWritable with
    | true => exact ⟨fun _ => rfl, fun _ => ⟨_, .inl rfl, .noChoice ..⟩⟩
    | false =>
      refine ⟨?_, nofun⟩
      rintro ⟨_, ⟨⟨⟩⟩ | ⟨_, ⟨⟩, _⟩, ⟨⟩⟩
  | false =>
    rw [if_neg Bool.false_ne_true, if_neg Bool.false_ne_true]
    constructor
    · rintro ⟨_, ⟨⟨⟩⟩ | ⟨_, ⟨⟩, unseen | ⟨found, again, shut, rfl⟩⟩, refusal⟩
      · exact absurd (checked.symm.trans unseen) nofun
      · obtain rfl := Except.ok.inj (checked.symm.trans again)
        exact shut
    · exact fun shut => ⟨_, .inr ⟨_, rfl, .inr ⟨availability, checked, shut, rfl⟩⟩, .locked ..⟩

/-- What is shown of a choice is what a call for it meets, but for the choices of an ending and for
seeds that cannot be used. An index too long for a message is refused without one. -/
theorem choices_enforced [Host] {dice : σ} (returns : generator.Returns dice) (now : Timestamp)
    (here : navigator.currentNode state = .ok node) :
    ((∃ views, navigator.choices state = .ok views) ↔ ∀ choice ∈ node.choices,
      choice.conditions = [] ∨ ∃ context, Condition.Context.ofState state = .ok context ∧
        ∀ condition ∈ choice.conditions, ¬ Condition.Jams navigator.predicates context condition) ∧
    ∀ views, navigator.choices state = .ok views → views.length = node.choices.length ∧
      ∀ (place : Nat) (view : ChoiceView), views[place]? = some view → view.index = place ∧
        ((¬ ∃ failure after, navigator.makeChoice generator now state (.int place) dice =
            .error failure after ∧ failure.IsChoiceRefusal) ↔
          (∃ fault, nextSeed? state = .error fault) ∨
            if node.isTerminal then (Value.int place).isWritable = false
            else view.available = true) := by
  refine ⟨choices_shown here, fun views shown => ?_⟩
  have each := (choices_eq_ok_iff here).mp shown
  refine ⟨by simpa using each.length_eq.symm, fun place view viewed => ?_⟩
  obtain ⟨item, listed, viewed⟩ := getElem?_of_forall₂ each viewed
  rw [List.getElem?_zipIdx, Option.map_eq_some_iff] at listed
  obtain ⟨choice, offered, rfl⟩ := listed
  obtain ⟨availability, checked, rfl⟩ := view_eq_ok_iff.mp viewed
  refine ⟨Nat.zero_add place, ?_⟩
  rw [makeChoice_refuses returns, gate_refuses here offered checked]
  cases nextSeed? state with
  | error fault => exact ⟨fun _ => .inl ⟨fault, rfl⟩, fun _ both => nomatch both.1⟩
  | ok seed => cases node.isTerminal <;> simp

/-- A story that ends where it starts, with a choice all the same. -/
def becalmed : Dict :=
  [(.text "harbour", .object [("start", .text "pier"), ("nodes", .object [
    ("pier", .object [("is_terminal", .bool true), ("choices", .list [
      .object [("text", .text "Set sail"), ("target", .text "pier")]])])])])]

/-- Whether the state ashore is at an ending that shows a single choice, an open one. -/
def endsOpen (navigator : Navigator) : Bool :=
  match navigator.currentNode ashore, navigator.choices ashore with
  | .ok node, .ok [view] => node.isTerminal && view.available
  | _, _ => false

open scoped Host in
theorem choices_enforced_becalmed : ∃ library, Library.ofDocument becalmed = .ok library ∧
    let navigator : Navigator := ⟨library.source, []⟩
    let dice := RandomSource.ofSeed (.number 1)
    RandomSource.generator.Returns dice ∧ ∃ view, navigator.choices ashore = .ok [view] ∧
      view.available = true ∧ ∃ failure after, navigator.makeChoice RandomSource.generator
        Story.Lighthouse.morning ashore (.int 0) dice = .error failure after ∧
          failure.IsChoiceRefusal := by
  have shown : ((Library.ofDocument becalmed).toOption.any fun library =>
      endsOpen ⟨library.source, []⟩) = true := by decide +kernel
  have returns : RandomSource.generator.Returns (.ofSeed (.number 1)) :=
    RandomSource.returns_ofSeed _
  cases loaded : Library.ofDocument becalmed with
  | error problem =>
    rw [loaded] at shown
    cases shown
  | ok library =>
    rw [loaded] at shown
    have shown : endsOpen ⟨library.source, []⟩ = true := shown
    unfold endsOpen at shown
    split at shown
    · rename_i node view here listed
      obtain ⟨ends, opened⟩ := Bool.and_eq_true_iff.mp shown
      obtain ⟨_, each⟩ := choices_enforced returns Story.Lighthouse.morning here
      obtain ⟨_, same⟩ := (each _ listed).2 0 view rfl
      refine ⟨library, rfl, returns, view, listed, opened, ?_⟩
      rw [if_pos ends] at same
      have usable : nextSeed? ashore = .ok none := rfl
      have short : (Value.int (0 : Nat)).isWritable = true := by decide +kernel
      rw [usable, short] at same
      refine by_contra fun through => ?_
      rcases same.mp through with ⟨_, ⟨⟩⟩ | long
      cases long
    · cases shown

end

end Navigator
end Gamebook
