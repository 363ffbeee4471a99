import Gamebook.Proofs.Play.Refusal
import Gamebook.Proofs.Play.Run
import Gamebook.Proofs.Story.Checked
import Gamebook.Proofs.Story.Loading

/-!
Playing a story in which no error was found: every node that a choice leads to is there and every
formula can be rolled, for as long as the game goes on.
-/
namespace Gamebook

/-- What a choice can fail by where its story has mistakes: something is not there, or a formula or
a range makes no sense. -/
inductive Failure.IsMistake : Failure → Prop
  | notFound (kind : Named) (key : Value) : IsMistake (.notFound kind key)
  | formula (given : Value) : IsMistake (.diceFormula given)
  | dice (formula : String) : IsMistake (.diceCount formula)
  | range (low high : Value) : IsMistake (.emptyRange low high)

private theorem Failure.noMistake_tolerates : Tolerates fun failure => ¬ failure.IsMistake := by
  constructor
  · intro fault mistake
    cases mistake
  · intro node index count mistake
    cases mistake
  · intro node index failed mistake
    cases mistake
  · intro stat mistake
    cases mistake

/-- The current node is among the given ones. -/
def GameState.StandsIn (nodes : Table StoryNode) (state : GameState) : Prop :=
  ∃ name ∈ nodes.names, state.currentNodeId = .text name

namespace Navigator
variable {σ : Type} {navigator : Navigator} {generator : Generator σ} {nodes : Table StoryNode}
  {state : GameState} {now : Timestamp} {index : Value}

section
variable (serves : navigator.stories.node? = nodes.get?)

include serves

private theorem node_of_contains {name : String} (inside : nodes.contains name = true) :
    ∃ node, navigator.node (.text name) = .ok node ∧ (name, node) ∈ nodes := by
  rw [← Assoc.isSome_get?, Option.isSome_iff_exists] at inside
  obtain ⟨node, found⟩ := inside
  obtain ⟨entry, member, named, rfl⟩ := Assoc.mem_of_get? found
  obtain rfl := beq_iff_eq.mp named
  exact ⟨entry.2, node_text_eq_ok.mpr (serves ▸ found), member⟩

private theorem currentNode_of_standsIn (stands : state.StandsIn nodes) :
    ∃ node, navigator.currentNode state = .ok node ∧ ∃ name, (name, node) ∈ nodes := by
  obtain ⟨name, inside, current⟩ := stands
  obtain ⟨node, found, member⟩ := node_of_contains serves (Assoc.contains_iff_name.mpr inside)
  exact ⟨node, by rw [currentNode, current, found], name, member⟩

private theorem makeChoice_noMistake [Host] (playable : Graph.Playable nodes)
    (stands : state.StandsIn nodes)
    (draws : ∀ low high, DrawsBy (fun failure => ¬ failure.IsMistake) (generator.draw low high)) :
    DrawsBy (fun failure => ¬ failure.IsMistake) (navigator.makeChoice generator now state index) := by
  obtain ⟨node, here, name, member⟩ := currentNode_of_standsIn serves stands
  have leads : ∀ choice ∈ node.choices,
      ∃ target, navigator.node (.text choice.target) = .ok target := by
    intro choice offered
    obtain ⟨target, found, _⟩ := node_of_contains serves (playable.targets _ member choice offered)
    exact ⟨target, found⟩
  refine makeChoice_fails Failure.noMistake_tolerates here leads ?_ draws
  intro choice offered requirement required
  obtain ⟨formula, read⟩ := playable.formulas _ member choice offered requirement required
  rw [read]
  exact failsBy_ok formula

private theorem Taken.standsIn [Host] (playable : Graph.Playable nodes)
    (keyed : ∀ entry ∈ nodes, entry.2.id = entry.1) (stands : state.StandsIn nodes)
    {transition : Transition} (taken : navigator.Taken now state index transition) :
    transition.state.StandsIn nodes := by
  obtain ⟨stood, there, name, member⟩ := currentNode_of_standsIn serves stands
  cases taken with
  | intro node target place choice copy changed applied history visits entries lasting rolls here
      goesOn named chosen leads copied changes offered logged visited held ticked =>
    obtain rfl := Except.ok.inj (there.symm.trans here)
    have inside := playable.targets _ member choice (List.mem_of_getElem? chosen)
    obtain ⟨led, found, entry⟩ := node_of_contains serves inside
    obtain rfl := Except.ok.inj (found.symm.trans leads)
    have own : led.id = choice.target := keyed _ entry
    exact ⟨led.id, own ▸ Assoc.contains_iff_name.mp inside, rfl⟩

/-- Where no mistake of a story is an error, no choice in it ever fails by one, and the game never
leaves it. -/
theorem play_checked [Host] {story start : Value} {found : List Issue} {dice : σ}
    (checked : Graph.issues story start nodes = .ok found)
    (clean : found.any Issue.isError = false) (keyed : ∀ entry ∈ nodes, entry.2.id = entry.1)
    (draws : ∀ low high, DrawsBy (fun failure => ¬ failure.IsMistake) (generator.draw low high))
    (stands : state.StandsIn nodes) (calls : List Call) :
    let game := navigator.play generator (.opening state dice) calls
    (∀ answer ∈ game.answers, ∀ failure, answer = .error failure → ¬ failure.IsMistake) ∧
      game.state.StandsIn nodes := by
  have playable := Graph.playable_of_issues checked clean
  refine play_induction (fun game =>
    (∀ answer ∈ game.answers, ∀ failure, answer = .error failure → ¬ failure.IsMistake) ∧
      game.state.StandsIn nodes) calls ?refused ?taken ⟨List.forall_mem_nil _, stands⟩
  case refused =>
    rintro game call failure after ⟨earlier, stands⟩ failed
    refine ⟨List.forall_mem_append.mpr ⟨earlier, List.forall_mem_singleton.mpr ?_⟩, stands⟩
    rintro _ ⟨⟩
    exact makeChoice_noMistake serves playable stands draws _ _ _ failed
  case taken =>
    rintro game call transition after ⟨earlier, stands⟩ taken
    refine ⟨List.forall_mem_append.mpr ⟨earlier, List.forall_mem_singleton.mpr ?_⟩, ?_⟩
    · rintro _ ⟨⟩
    · exact taken.standsIn serves playable keyed stands

end

private theorem lighthouse_clean {found : List Issue}
    (checked : Story.Lighthouse.story.issues = .ok found) : found.any Issue.isError = false := by
  obtain ⟨starts, lists, started, each, rfl⟩ := Graph.issues_eq_ok.mp checked
  have first : (Graph.startIssues (.text "lighthouse") (.text "lh_shore")
      Story.Lighthouse.story.nodes).toOption.map (·.any Issue.isError) = some false := by
    decide +kernel
  have rest : (Story.Lighthouse.story.nodes.mapM fun entry => Graph.nodeIssues
      Story.Lighthouse.story.nodes entry.1 entry.2).toOption.map (·.flatten.any Issue.isError) =
        some false := by
    decide +kernel
  have starts : starts.any Issue.isError = false := by
    rw [show Graph.startIssues (.text "lighthouse") (.text "lh_shore") _ = _ from started] at first
    exact Option.some.inj first
  have nodes : lists.flatten.any Issue.isError = false := by
    rw [each] at rest
    exact Option.some.inj rest
  rw [List.any_append, List.any_append, starts, nodes]
  simp [Issue.isError, Issue.severity]

open scoped Host in
theorem play_checked_lighthouse : ∃ found, Story.Lighthouse.story.issues = .ok found ∧
    found.any Issue.isError = false ∧
    (Story.Lighthouse.navigator.play RandomSource.generator
      (.opening Story.Lighthouse.opening (.fixed [])) [⟨Story.Lighthouse.morning, .int 1⟩]).state.StandsIn
        Story.Lighthouse.story.nodes := by
  obtain ⟨found, checked⟩ : ∃ found, Story.Lighthouse.story.issues = .ok found :=
    ok_of_isOk (by decide +kernel)
  have clean := lighthouse_clean checked
  have serves : Story.Lighthouse.navigator.stories.node? = Story.Lighthouse.story.nodes.get? :=
    congrArg Assoc.get? (List.append_nil _)
  have draws (low high : Int) : DrawsBy (fun failure => ¬ failure.IsMistake)
      (RandomSource.generator.draw low high) :=
    RandomSource.draw_fails Failure.noMistake_tolerates.fault low high
  have stands : Story.Lighthouse.opening.StandsIn Story.Lighthouse.story.nodes :=
    ⟨"lh_shore", by decide, rfl⟩
  obtain ⟨_, stays⟩ := play_checked serves checked clean (by decide) draws stands
    [⟨Story.Lighthouse.morning, .int 1⟩]
  exact ⟨found, checked, clean, stays⟩

end Navigator
end Gamebook
