import Gamebook.Proofs.Effect.Skipping
import Gamebook.Proofs.Play.Gating
import Gamebook.Proofs.Story.Loading
import Gamebook.Proofs.Story.Reporting

/-!
What the errors that are reported of a story come to when it is played. Each of them is one that
playing meets, but for an empty formula, which is reported though playing takes it for none.
-/
namespace Gamebook

namespace Effect
variable {effect : EffectDef} {state next : GameState}

theorem nextWhole_known {floor : Int} {operation : String} {current amount result : Value}
    (ok : nextWhole floor operation current amount = .ok result) :
    (Operation.ofName? operation).isSome := by
  obtain ⟨combined, combining, _⟩ := bind_eq_ok.mp ok
  unfold combineNamed at combining
  split at combining
  · rename_i known
    simp [known]
  · simp [refuse] at combining

theorem nextFlag_known {flag operation : String} {current amount result : Value}
    (ok : nextFlag flag operation current amount = .ok result) :
    (Operation.ofName? operation).isSome := by
  unfold nextFlag at ok
  split at ok
  · simp [refuse] at ok
  · rename_i known
    simp [known]
  · rename_i known
    simp [known]

theorem perform_known (performed : perform effect state = .ok true next) :
    (Operation.ofName? effect.operation).isSome := by
  have reached := perform_eq_true.mp performed
  unfold outcome at reached
  split at reached
  · rename_i target _
    obtain ⟨changed, applied, _⟩ := bind_eq_ok.mp reached
    cases target with
    | wallet | inventory | stat =>
      obtain ⟨_, _, rest⟩ := bind_eq_ok.mp applied
      obtain ⟨_, _, rest⟩ := bind_eq_ok.mp rest
      obtain ⟨_, reached, _⟩ := bind_eq_ok.mp rest
      exact nextWhole_known reached
    | flag =>
      obtain ⟨_, _, rest⟩ := bind_eq_ok.mp applied
      obtain ⟨_, reached, _⟩ := bind_eq_ok.mp rest
      exact nextFlag_known reached
    | status =>
      cases known : Operation.ofName? effect.operation with
      | some operation => simp
      | none => simp [targetOutcome, statusOutcome, known, refuse] at applied
  · cases reached

theorem run_known (state : GameState) (effects : List EffectDef) :
    ∀ effect ∈ (run state effects).applied, (Operation.ofName? effect.operation).isSome := by
  induction effects generalizing state with
  | nil => simp [run]
  | cons first effects ih =>
    rcases perform_cases first state with ⟨next, performed⟩ | skips | ⟨fault, broken⟩
    · rw [run_cons_applied performed]
      exact List.forall_mem_cons.mpr ⟨perform_known performed, ih next⟩
    · rw [run_cons_skipped skips]
      exact ih state
    · rw [run_cons_broken broken]
      simp

end Effect

namespace Condition
variable {predicates : Predicates} {state : GameState} {conditions : List ConditionDef}

theorem isUnmet_unreadable {context : Context} {condition : ConditionDef}
    {reason : MalformedCondition} (unread : condition.expression = .invalid reason)
    (answers : ¬ Jams predicates context condition) : isUnmet predicates context condition = true := by
  have failed : evaluate context predicates condition.expression =
      .error (.condition (.malformed reason)) := by
    rw [unread]
    rfl
  have short : condition.logic.isAbridgeable 6 = true :=
    Bool.not_eq_false _ ▸ fun long => answers ⟨⟨_, failed⟩, long⟩
  simp [isUnmet, isMet, failed, short]

/-- A condition that cannot be read is among those that are not met. -/
theorem mem_failed {availability : Availability} {index : Nat} {condition : ConditionDef}
    {reason : MalformedCondition}
    (checked : Condition.availability predicates conditions state = .ok availability)
    (inside : conditions[index]? = some condition)
    (unread : condition.expression = .invalid reason) :
    ⟨index, condition.logic⟩ ∈ availability.failed := by
  unfold Condition.availability at checked
  split at checked
  · rename_i empty
    simp [List.isEmpty_iff.mp empty] at inside
  · obtain ⟨context, _, rest⟩ := bind_eq_ok.mp checked
    obtain ⟨failed, found, rest⟩ := bind_eq_ok.mp rest
    obtain rfl := pure_eq_ok.mp rest
    obtain ⟨answers, rfl⟩ := failures_eq_ok found
    refine List.mem_map.mpr ⟨(condition, index), List.mem_filter.mpr ⟨?_, ?_⟩, rfl⟩
    · exact List.mem_zipIdx_iff_getElem?.mpr inside
    · exact isUnmet_unreadable unread (answers condition (List.mem_of_getElem? inside))

/-- As soon as one choice is guarded, a state has to be looked at to show any of them. -/
theorem checkable_all {choices : List StoryChoice} {guarded : StoryChoice}
    (member : guarded ∈ choices) (some : guarded.conditions ≠ []) :
    (∀ choice ∈ choices, Checkable predicates choice.conditions state) ↔
      ∃ context, Context.ofState state = .ok context ∧
        ∀ choice ∈ choices, ∀ condition ∈ choice.conditions, ¬ Jams predicates context condition := by
  constructor
  · intro checkable
    obtain ⟨context, seen, _⟩ := (checkable guarded member).resolve_left some
    refine ⟨context, seen, fun choice inside condition listed => ?_⟩
    obtain ⟨other, seen', answers⟩ :=
      (checkable choice inside).resolve_left (List.ne_nil_of_mem listed)
    obtain rfl := Except.ok.inj (seen.symm.trans seen')
    exact answers condition listed
  · exact fun ⟨context, seen, answers⟩ choice inside => .inr ⟨context, seen, answers choice inside⟩

end Condition

namespace Navigator
variable {σ : Type} {navigator : Navigator} {generator : Generator σ} {now : Timestamp}
  {state : GameState} {index : Value} {transition : Transition}

/-- What a call that goes through has passed on its way. -/
structure Passed (navigator : Navigator) (state : GameState) (index : Value) (selection : Selection)
    (transition : Transition) : Prop where
  gated : navigator.gate state index = .ok selection
  leads : ∃ target, navigator.node (.text selection.choice.target) = .ok target
  readable : ∀ requirement ∈ selection.choice.rollRequirements,
    ∃ formula, DiceFormula.ofText requirement.formulaText = .ok formula
  applied : ∃ copy, transition.applied = (Effect.run copy selection.choice.effects).applied

theorem resolve_readable {stats : Loose Dict} {requirement : RollRequirement} {roll : RollResult}
    {before after : σ} (ok : generator.resolve stats requirement before = .ok roll after) :
    ∃ formula, DiceFormula.ofText requirement.formulaText = .ok formula := by
  obtain ⟨known, _, _, rest⟩ := draw_bind_eq_ok.mp ok
  dsimp only at rest
  split at rest
  · cases rest
  · split at rest
    · cases rest
    · obtain ⟨_, _, checked, _⟩ := draw_bind_eq_ok.mp rest
      obtain ⟨_, _, composed, _⟩ := draw_bind_eq_ok.mp checked
      obtain ⟨formula, read, _⟩ := bind_eq_ok.mp (draw_lift_eq_ok.mp composed).1
      exact ⟨formula, read⟩

theorem resolveAll_readable {stats : Loose Dict} {requirements : List RollRequirement}
    {rolls : List RollResult} {before after : σ}
    (ok : generator.resolveAll stats requirements before = .ok rolls after) :
    ∀ requirement ∈ requirements,
      ∃ formula, DiceFormula.ofText requirement.formulaText = .ok formula := by
  induction requirements generalizing rolls before after with
  | nil => simp
  | cons first requirements ih =>
    obtain ⟨roll, between, resolved, rest⟩ := draw_bind_eq_ok.mp ok
    obtain ⟨others, _, later, _⟩ := draw_bind_eq_ok.mp rest
    exact List.forall_mem_cons.mpr ⟨resolve_readable resolved, ih later⟩

theorem advance_applied [Host] {selection : Selection} {target : StoryNode} {applied : List EffectDef}
    {next : GameState} (ok : advance now selection target state = .ok (applied, next)) :
    ∃ copy, applied = (Effect.run copy selection.choice.effects).applied := by
  obtain ⟨copy, _, _, _, _, _, ran, _⟩ := advance_runs ok
  exact ⟨copy, ran⟩

theorem take_passed [Host] {before after : σ}
    (ok : navigator.take generator now state index before = .ok transition after) :
    ∃ selection, navigator.Passed state index selection transition := by
  obtain ⟨selection, target, _, _, _, gated, leads, rolled, advanced, rfl⟩ := take_eq_ok.mp ok
  exact ⟨selection, gated, ⟨target, leads⟩, resolveAll_readable rolled, advance_applied advanced⟩

theorem makeChoice_passed [Host] {before after : σ}
    (ok : navigator.makeChoice generator now state index before = .ok transition after) :
    ∃ selection, navigator.Passed state index selection transition := by
  obtain ⟨_, source, _, _, taken⟩ := makeChoice_takes ok
  exact take_passed taken

theorem preview_passed [Host] {chance : Seed} {before after : σ}
    (ok : navigator.preview generator chance now state index before = .ok transition after) :
    ∃ selection, navigator.Passed state index selection transition := by
  unfold preview at ok
  split at ok
  · obtain ⟨after, taken⟩ := takeSeeded_takes (draw_lift_eq_ok.mp ok).1
    exact take_passed taken
  · exact makeChoice_passed ok

/-- How a navigator comes by the nodes of a story: it is given just them, or they are loaded with
the library that it plays. -/
inductive Serves (navigator : Navigator) (nodes : Table StoryNode) : Prop
  | built (distinct : nodes.names.Nodup) (serves : navigator.stories.node? = nodes.get?)
  | loaded {document : Dict} {library : Library} {id : String} {story : Story}
      (read : Library.ofDocument document = .ok library) (listed : (id, story) ∈ library.stories)
      (own : story.nodes = nodes) (serves : navigator.stories = library.source)

/-- No call takes the choice at a place, whatever is rolled. -/
def Blocks [Host] (navigator : Navigator) (state : GameState) (place : Nat) : Prop :=
  ∀ {σ : Type} (generator : Generator σ) (now : Timestamp) (before after : σ)
    (transition : Transition),
    navigator.makeChoice generator now state (.int place) before ≠ .ok transition after

section
variable {nodes : Table StoryNode} {id : String} {node : StoryNode} {place : Nat}
  {choice : StoryChoice} {selection : Selection}

theorem Serves.distinct (serves : navigator.Serves nodes) : nodes.names.Nodup := by
  cases serves with
  | built distinct => exact distinct
  | loaded read listed own =>
    obtain ⟨linked, _⟩ := Library.ofDocument_linked read
    exact own ▸ (linked.closed _ listed).distinct

theorem Serves.node?_of_mem (serves : navigator.Serves nodes) (member : (id, node) ∈ nodes) :
    navigator.stories.node? id = some node := by
  have here := Assoc.get?_of_mem serves.distinct member
  cases serves with
  | built _ serves => rw [serves, here]
  | loaded read listed own serves =>
    obtain ⟨linked, _⟩ := Library.ofDocument_linked read
    subst own
    obtain ⟨found, indexed, same, _⟩ := Library.node?_of_mem linked listed (List.mem_map_of_mem member)
    rw [serves, indexed, ← same, here]

/-- A choice that leads to none of the nodes leads nowhere: stories with such choices are not
loaded. -/
theorem Serves.dangling (serves : navigator.Serves nodes) (member : (id, node) ∈ nodes)
    (offered : choice ∈ node.choices) (dangling : nodes.contains choice.target = false) :
    navigator.stories.node? choice.target = none := by
  cases serves with
  | built _ serves =>
    rw [serves, ← Option.isNone_iff_eq_none, ← Option.not_isSome, Assoc.isSome_get?, dangling]
    rfl
  | loaded read listed own =>
    obtain ⟨linked, _⟩ := Library.ofDocument_linked read
    subst own
    have inside := (linked.closed _ listed).targets _ member choice offered
    rw [Assoc.contains_iff_name.mpr inside] at dangling
    cases dangling

theorem Passed.choice_eq (passed : navigator.Passed state (.int place) selection transition)
    (here : navigator.currentNode state = .ok node) (there : node.choices[place]? = some choice) :
    selection.choice = choice := by
  obtain ⟨chosen, _⟩ := gate_eq_ok_iff.mp passed.gated
  rw [select, here] at chosen
  have chosen : choiceAt node (.int place) = .ok selection := chosen
  rw [choiceAt_place there] at chosen
  split at chosen
  · exact absurd chosen refuseIndex_ne_ok
  · cases chosen
    rfl

theorem blocks_of_passed [Host] (stops : ∀ selection transition,
    ¬ navigator.Passed state (.int place) selection transition) : navigator.Blocks state place := by
  intro σ generator now before after transition made
  obtain ⟨selection, passed⟩ := makeChoice_passed made
  exact stops selection transition passed

section
variable {condition : ConditionDef} {place' : Nat} {reason : MalformedCondition}
  (there : node.choices[place]? = some choice) (inside : choice.conditions[place']? = some condition)
  (unread : condition.expression = .invalid reason)
include inside unread

theorem unavailable_of_unreadable {availability : Availability}
    (checked : navigator.availability choice state = .ok availability) :
    availability.available = false ∧ ⟨place', condition.logic⟩ ∈ availability.failed := by
  have failed := Condition.mem_failed (Fault.lift_eq_ok.mp checked) inside unread
  refine ⟨?_, failed⟩
  cases shut : availability.failed with
  | nil => simp [shut] at failed
  | cons => simp [Availability.available, shut]

include there

theorem blocks_of_unreadable [Host] (here : navigator.currentNode state = .ok node) :
    navigator.Blocks state place := by
  apply blocks_of_passed
  intro selection transition passed
  obtain ⟨_, availability, checked, opened⟩ := gate_eq_ok_iff.mp passed.gated
  rw [passed.choice_eq here there] at checked
  obtain ⟨shut, _⟩ := unavailable_of_unreadable inside unread checked
  rw [shut] at opened
  cases opened

theorem choices_of_unreadable {views : List ChoiceView}
    (here : navigator.currentNode state = .ok node) (shown : navigator.choices state = .ok views) :
    ∃ view, views[place]? = some view ∧ view.available = false ∧
      ⟨place', condition.logic⟩ ∈ view.failed := by
  have each := (choices_eq_ok_iff here).mp shown
  have listed : node.choices.zipIdx[place]? = some (choice, place) := by
    simp [List.getElem?_zipIdx, there]
  obtain ⟨view, offered, viewed⟩ := getElem?_of_forall₂ each.flip listed
  obtain ⟨availability, checked, rfl⟩ := view_eq_ok_iff.mp viewed
  exact ⟨_, offered, unavailable_of_unreadable inside unread checked⟩

end

theorem blocks_of_dangling [Host] (here : navigator.currentNode state = .ok node)
    (there : node.choices[place]? = some choice)
    (nowhere : navigator.stories.node? choice.target = none) : navigator.Blocks state place := by
  apply blocks_of_passed
  intro selection transition passed
  obtain ⟨target, leads⟩ := passed.leads
  rw [passed.choice_eq here there, node_text_eq_ok, nowhere] at leads
  cases leads

theorem blocks_of_misread [Host] {requirement : RollRequirement} {formula : String} {reason : Failure}
    (here : navigator.currentNode state = .ok node) (there : node.choices[place]? = some choice)
    (required : requirement ∈ choice.rollRequirements) (given : requirement.formula = some formula)
    (filled : formula ≠ "") (unread : DiceFormula.ofText formula = .error reason) :
    navigator.Blocks state place := by
  apply blocks_of_passed
  intro selection transition passed
  obtain ⟨parsed, read⟩ :=
    passed.readable requirement ((passed.choice_eq here there).symm ▸ required)
  rw [RollRequirement.formulaText, given] at read
  simp only [if_neg filled, unread] at read
  cases read

/-- An effect that no operation stands for never takes hold, in whatever state and company. -/
theorem not_mem_applied {effect : EffectDef}
    (unknown : Effect.Operation.ofName? effect.operation = none)
    (passed : navigator.Passed state index selection transition) : effect ∉ transition.applied := by
  obtain ⟨copy, ran⟩ := passed.applied
  intro member
  have known := Effect.run_known copy selection.choice.effects effect (ran ▸ member)
  simp [unknown] at known

/-- What is reported as an error inside a choice keeps the choice from being taken, or its effect
from taking hold, in every state on the node; only an empty formula is rolled as if there was
none. -/
theorem makeChoice_reported [Host] (serves : navigator.Serves nodes) {story start : Value}
    {found : List Issue} (checked : Graph.issues story start nodes = .ok found)
    (member : (id, node) ∈ nodes) (there : node.choices[place]? = some choice)
    (stands : state.currentNodeId = .text id) :
    (∀ place' reason, .unreadableCondition id (Graph.conditionPath place place') reason ∈ found →
      navigator.Blocks state place ∧
      ((∃ views, navigator.choices state = .ok views) ↔
        ∃ context, Condition.Context.ofState state = .ok context ∧
          ∀ shown ∈ node.choices, ∀ condition ∈ shown.conditions,
            ¬ Condition.Jams navigator.predicates context condition) ∧
      ∀ views, navigator.choices state = .ok views → ∃ view failed, views[place]? = some view ∧
        view.available = false ∧ failed ∈ view.failed ∧ failed.index = place') ∧
    (∀ place', .unknownOperation id (Graph.operationPath place place') ∈ found →
      ∃ effect, choice.effects[place']? = some effect ∧
        (∀ now effects state, effect ∉ (Effect.applyAll now effects state).applied) ∧
        (∀ {σ : Type} (generator : Generator σ) now state index before after transition,
          navigator.makeChoice generator now state index before = .ok transition after →
          effect ∉ transition.applied) ∧
        ∀ {σ : Type} (generator : Generator σ) chance now state index before after transition,
          navigator.preview generator chance now state index before = .ok transition after →
          effect ∉ transition.applied) ∧
    (∀ target, .missingTarget id (Graph.targetPath place) target ∈ found →
      navigator.Blocks state place) ∧
    ∀ place' reason, .badFormula id (Graph.rollPath place place') reason ∈ found →
      ∃ requirement, choice.rollRequirements[place']? = some requirement ∧
        (requirement.formula ≠ some "" → navigator.Blocks state place) ∧
        (requirement.formula = some "" → ∀ {σ : Type} (generator : Generator σ) stats,
          generator.resolve stats requirement =
            generator.resolve stats { requirement with formula := none }) := by
  have here : navigator.currentNode state = .ok node := by
    rw [currentNode, stands, node_text_eq_ok, serves.node?_of_mem member]
  have reports {issue : Issue} (hosted : issue.host? = some id) (inside : issue ∈ found) :
      Graph.Reports nodes id node issue :=
    (Graph.mem_issues_iff checked serves.distinct member hosted).mp inside
  refine ⟨fun place' reason said => ?_, fun place' said => ?_, fun target said => ?_,
    fun place' reason said => ?_⟩
  · obtain ⟨other, condition, there', inside, unread⟩ := Graph.reports_condition.mp (reports rfl said)
    obtain rfl := Option.some.inj (there.symm.trans there')
    refine ⟨blocks_of_unreadable there inside unread here, ?_, fun views shown => ?_⟩
    · exact (choices_shown here).trans (Condition.checkable_all (List.mem_of_getElem? there)
        (List.ne_nil_of_mem (List.mem_of_getElem? inside)))
    · obtain ⟨view, offered, shut, failed⟩ := choices_of_unreadable there inside unread here shown
      exact ⟨view, _, offered, shut, failed, rfl⟩
  · obtain ⟨other, effect, there', inside, _, unknown⟩ := Graph.reports_operation.mp (reports rfl said)
    obtain rfl := Option.some.inj (there.symm.trans there')
    refine ⟨effect, inside, fun now effects state applied => ?_,
      fun generator now state index before after transition made => ?_,
      fun generator chance now state index before after transition shown => ?_⟩
    · obtain ⟨_, _, ran⟩ := Effect.applyAll_state now effects state
      have known := Effect.run_known state effects effect (ran ▸ applied)
      simp [unknown] at known
    · obtain ⟨selection, passed⟩ := makeChoice_passed made
      exact not_mem_applied unknown passed
    · obtain ⟨selection, passed⟩ := preview_passed shown
      exact not_mem_applied unknown passed
  · obtain ⟨other, there', dangling, rfl⟩ := Graph.reports_target.mp (reports rfl said)
    obtain rfl := Option.some.inj (there.symm.trans there')
    exact blocks_of_dangling here there
      (serves.dangling member (List.mem_of_getElem? there) dangling)
  · obtain ⟨other, requirement, formula, there', inside, given, unread⟩ :=
      Graph.reports_roll.mp (reports rfl said)
    obtain rfl := Option.some.inj (there.symm.trans there')
    refine ⟨requirement, inside, fun filled => ?_, fun empty σ generator stats => ?_⟩
    · exact blocks_of_misread here there (List.mem_of_getElem? inside) given
        (fun empty => filled (empty ▸ given)) unread
    · have same : requirement.formulaText = { requirement with formula := none }.formulaText := by
        simp [RollRequirement.formulaText, empty]
      simp only [Generator.resolve, same]

end

/-- A check for which the author left the formula empty. -/
def blankCheck : RollRequirement := ⟨"luck", 10, some ""⟩

def gamble : StoryChoice :=
  { Story.Lighthouse.choice "sail" "Set sail" "sea" with rollRequirements := [blankCheck] }

def gamblePier : StoryNode := Story.Lighthouse.place "pier" "pier" "The wind is rising." [gamble]

def gambleNodes : Table StoryNode :=
  [("pier", gamblePier), ("sea", Story.Lighthouse.ending "sea" "sea" "Nothing but water.")]

def gambler : Navigator where
  stories := ⟨gambleNodes.get?, fun _ => .ok (.int 2), fun _ => .ok (.text "pier")⟩
  predicates := []

open scoped Host in
/-- The empty formula is reported, and yet the choice is taken with the die of the game. -/
theorem makeChoice_reported_blank : ∃ found,
    Graph.issues (.text "harbour") (.text "pier") gambleNodes = .ok found ∧
    .badFormula "pier" (Graph.rollPath 0 0) (.diceFormula (.text "")) ∈ found ∧
    (∃ transition after, gambler.makeChoice RandomSource.generator Story.Lighthouse.morning ashore
      (.int (0 : Nat)) (.fixed [7]) = .ok transition after) ∧
    ∀ stats, RandomSource.generator.resolve stats blankCheck =
      RandomSource.generator.resolve stats { blankCheck with formula := none } := by
  obtain ⟨found, checked⟩ : ∃ found,
      Graph.issues (.text "harbour") (.text "pier") gambleNodes = .ok found :=
    ok_of_isOk (by decide +kernel)
  have serves : gambler.Serves gambleNodes := .built (by decide) rfl
  have there : gamblePier.choices[0]? = some gamble := rfl
  have inside : gamble.rollRequirements[0]? = some blankCheck := rfl
  have said : .badFormula "pier" (Graph.rollPath 0 0) (.diceFormula (.text "")) ∈ found :=
    (Graph.mem_issues_iff checked serves.distinct (.head _) rfl).mpr
      (.roll there inside rfl rfl)
  have taken : gives (fun _ => true) (gambler.makeChoice RandomSource.generator
      Story.Lighthouse.morning ashore (.int (0 : Nat)) (.fixed [7])) = true := by
    decide +kernel
  obtain ⟨transition, after, made, _⟩ := ok_of_gives taken
  have stands : ashore.currentNodeId = .text "pier" := rfl
  obtain ⟨_, _, _, formulas⟩ := makeChoice_reported serves checked (.head _) there stands
  obtain ⟨requirement, inside', _, default⟩ := formulas 0 _ said
  obtain rfl := Option.some.inj (inside.symm.trans inside')
  exact ⟨found, checked, said, ⟨transition, after, made⟩, fun stats => default rfl _ stats⟩

end Navigator
end Gamebook
