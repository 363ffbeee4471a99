import Gamebook.Proofs.Story.Reporting

/-!
What is known of nodes in which no mistakes were found but those that only deserve a warning.
-/
namespace Gamebook

/-- What playing asks of nodes: their choices lead to nodes, their formulas can be read. -/
structure Graph.Playable (nodes : Table StoryNode) : Prop where
  targets : ∀ entry ∈ nodes, ∀ choice ∈ entry.2.choices, nodes.contains choice.target = true
  formulas : ∀ entry ∈ nodes, ∀ choice ∈ entry.2.choices, ∀ requirement ∈ choice.rollRequirements,
    ∃ formula, DiceFormula.ofText requirement.formulaText = .ok formula

namespace Graph
variable {nodes : Table StoryNode} {found : List Issue}

/-- Where no error was found, playing finds what it needs. An empty formula is a mistake, so every
formula that is there is the one that is rolled. -/
theorem playable_of_issues {story start : Value} (checked : issues story start nodes = .ok found)
    (clean : found.any Issue.isError = false) : Playable nodes := by
  have silent {entry : String × StoryNode} {issue : Issue} (member : entry ∈ nodes)
      (reports : Reports nodes entry.1 entry.2 issue) : issue.isError = false := by
    have inside : issue ∈ found := (mem_issues checked).mpr (.inr (.inl ⟨entry, member, reports⟩))
    simpa using List.any_eq_false.mp clean issue inside
  constructor
  case targets =>
    intro entry member choice offered
    obtain ⟨place, there⟩ := List.mem_iff_getElem?.mp offered
    by_contra dangling
    cases silent member (.target there (by simpa using dangling))
  case formulas =>
    intro entry member choice offered requirement required
    obtain ⟨place, there⟩ := List.mem_iff_getElem?.mp offered
    obtain ⟨index, inside⟩ := List.mem_iff_getElem?.mp required
    unfold RollRequirement.formulaText
    cases given : requirement.formula with
    | none => exact ok_of_isOk (by decide)
    | some text =>
      cases read : DiceFormula.ofText text with
      | error reason => cases silent member (.roll there inside given read)
      | ok formula =>
        have filled : text ≠ "" := by
          rintro rfl
          cases read
        exact ⟨formula, by simp only [if_neg filled, read]⟩

end Graph
end Gamebook
