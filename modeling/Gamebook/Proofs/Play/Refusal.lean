import Gamebook.Proofs.Failing
import Gamebook.Proofs.Play.Taking

/-!
What is missing when a choice cannot be taken. Rolling never fails for want of a story, a node or a
save, and nothing else does either where the nodes are there that the choices lead to.
-/
namespace Gamebook

/-- Not the failure to find something. -/
def Failure.IsOther (failure : Failure) : Prop := ∀ kind key, failure ≠ .notFound kind key

/-- Allows what may keep a choice from being taken whatever its story is like. -/
structure Failure.Tolerates (allowed : Failure → Prop) : Prop where
  fault : ∀ fault, allowed (.fault fault)
  index : ∀ node index count, allowed (.noSuchChoice node index count)
  conditions : ∀ node index failed, allowed (.conditionsNotMet node index failed)
  stat : ∀ stat, allowed (.unknownStat stat)

namespace Failure

theorem isOther_tolerates : Tolerates IsOther := by
  constructor
  · intro fault kind key same
    cases same
  · intro node index count kind key same
    cases same
  · intro node index failed kind key same
    cases same
  · intro stat kind key same
    cases same

end Failure

variable {allowed : Failure → Prop}

namespace DiceFormula

theorem readNumber_fails (faults : ∀ fault, allowed (.fault fault)) (digits : List Char) :
    FailsBy allowed (readNumber digits) := by
  unfold readNumber
  split
  · exact failsBy_ok _
  · exact failsBy_error (faults _)

theorem readModifier_fails (faults : ∀ fault, allowed (.fault fault)) (text : List Char) :
    FailsBy allowed (readModifier text) := by
  unfold readModifier
  split
  · exact failsBy_ok _
  · exact readNumber_fails faults _

theorem ofText_fails (faults : ∀ fault, allowed (.fault fault))
    (formula : ∀ given, allowed (.diceFormula given)) (dice : ∀ given, allowed (.diceCount given))
    (text : String) : FailsBy allowed (ofText text) := by
  unfold ofText
  split
  · exact failsBy_error (formula _)
  · refine failsBy_bind (readNumber_fails faults _) fun count _ => ?_
    refine failsBy_bind (readNumber_fails faults _) fun sides _ => ?_
    refine failsBy_bind (readModifier_fails faults _) fun modifier _ => ?_
    split
    · exact failsBy_ok _
    · exact failsBy_error (dice _)

end DiceFormula

theorem checkFormula_fails (faults : ∀ fault, allowed (.fault fault)) {base : String}
    (readable : FailsBy allowed (DiceFormula.ofText base)) (stat : Value) :
    FailsBy allowed (checkFormula (.text base) stat) := by
  refine failsBy_bind readable fun formula _ => ?_
  refine failsBy_bind (failsBy_lift faults) fun modifier _ => ?_
  dsimp only
  split
  · exact failsBy_ok _
  · exact failsBy_error (faults _)

theorem RandomSource.draw_fails (faults : ∀ fault, allowed (.fault fault)) (low high : Int) :
    DrawsBy allowed (generator.draw low high) := by
  intro before failure after failed
  cases before with
  | twister state =>
    by_cases ordered : low ≤ high
    · simp [generator, drawFrom, ordered] at failed
    · simp only [generator, drawFrom, if_neg ordered] at failed
      cases failed
      exact faults _
  | fixed values =>
    cases values with
    | nil =>
      cases failed
      exact faults _
    | cons value values => cases failed

namespace Generator
variable {σ : Type} {generator : Generator σ}

theorem drawMany_fails (draws : ∀ low high, DrawsBy allowed (generator.draw low high))
    (low high : Int) (count : Nat) : DrawsBy allowed (generator.drawMany low high count) := by
  induction count with
  | zero => exact drawsBy_pure _
  | succ count ih =>
    refine drawsBy_bind (draws low high) fun _ first _ _ => ?_
    exact drawsBy_bind ih fun _ rest _ _ => drawsBy_pure _

variable (tolerates : Failure.Tolerates allowed)
  (draws : ∀ low high, DrawsBy allowed (generator.draw low high))

include tolerates draws

theorem resolve_fails (stats : Loose Dict) {requirement : RollRequirement}
    (readable : FailsBy allowed (DiceFormula.ofText requirement.formulaText)) :
    DrawsBy allowed (generator.resolve stats requirement) := by
  refine drawsBy_bind (drawsBy_lift (failsBy_lift tolerates.fault)) fun _ known _ _ => ?_
  dsimp only
  split
  · exact drawsBy_throw (tolerates.stat _)
  · split
    · exact drawsBy_throw (tolerates.fault _)
    · refine drawsBy_bind ?check fun _ roll _ _ => drawsBy_pure _
      have formula := checkFormula_fails tolerates.fault readable
      refine drawsBy_bind (drawsBy_lift (formula _)) fun _ formula _ _ => ?_
      refine drawsBy_bind (drawMany_fails draws _ _ _) fun _ faces _ _ => ?_
      exact drawsBy_lift (failsBy_lift tolerates.fault)

theorem resolveAll_fails (stats : Loose Dict) {requirements : List RollRequirement}
    (readable : ∀ requirement ∈ requirements,
      FailsBy allowed (DiceFormula.ofText requirement.formulaText)) :
    DrawsBy allowed (generator.resolveAll stats requirements) := by
  induction requirements with
  | nil => exact drawsBy_pure _
  | cons requirement requirements ih =>
    have head := resolve_fails tolerates draws stats (readable requirement (.head _))
    refine drawsBy_bind head fun _ roll _ _ => ?_
    have rest := ih fun other member => readable other (.tail _ member)
    exact drawsBy_bind rest fun _ rolls _ _ => drawsBy_pure _

end Generator

namespace Navigator
variable {σ : Type} {navigator : Navigator} {generator : Generator σ} {now : Timestamp}
  {state : GameState} {index : Value} {node : StoryNode}

theorem advance_fails [Host] (faults : ∀ fault, allowed (.fault fault)) (selection : Selection)
    (target : StoryNode) : FailsBy allowed (advance now selection target state) := by
  refine failsBy_bind (failsBy_lift faults) fun copy _ => ?_
  dsimp only
  split
  · exact failsBy_error (faults _)
  · refine failsBy_bind (failsBy_lift faults) fun logged _ => ?_
    refine failsBy_bind (failsBy_lift faults) fun moved _ => ?_
    exact failsBy_bind (failsBy_lift faults) fun final _ => failsBy_ok _

section
variable (tolerates : Failure.Tolerates allowed)

include tolerates

theorem choiceAt_fails (node : StoryNode) (index : Value) : FailsBy allowed (choiceAt node index) := by
  rcases choiceAt_cases node index with ⟨selection, chosen⟩ | ⟨count, refused⟩
  · rw [chosen]
    exact failsBy_ok selection
  · rw [refused]
    exact failsBy_showing (tolerates.index _ _ _) (tolerates.fault _)

theorem gate_fails (here : navigator.currentNode state = .ok node) :
    FailsBy allowed (navigator.gate state index) := by
  refine failsBy_bind ?_ fun selection _ => ?_
  · exact failsBy_bind (here ▸ failsBy_ok node) fun node _ => choiceAt_fails tolerates node index
  · refine failsBy_bind (failsBy_lift tolerates.fault) fun availability _ => ?_
    split
    · exact failsBy_ok _
    · exact failsBy_error (tolerates.conditions _ _ _)

variable (here : navigator.currentNode state = .ok node)
  (leads : ∀ choice ∈ node.choices, ∃ target, navigator.node (.text choice.target) = .ok target)
  (readable : ∀ choice ∈ node.choices, ∀ requirement ∈ choice.rollRequirements,
    FailsBy allowed (DiceFormula.ofText requirement.formulaText))

include here leads readable

/-- Where the current node and the targets of its choices are there, taking a choice finds all. -/
theorem take_fails [Host] (draws : ∀ low high, DrawsBy allowed (generator.draw low high)) :
    DrawsBy allowed (navigator.take generator now state index) := by
  refine drawsBy_bind (drawsBy_lift (gate_fails tolerates here)) fun _ selection _ gated => ?_
  obtain ⟨other, there, chosen⟩ := gate_eq_ok (draw_lift_eq_ok.mp gated).1
  obtain rfl := Except.ok.inj (here.symm.trans there)
  obtain ⟨_, _, _, offered⟩ := choiceAt_eq_ok chosen
  have member := List.mem_of_getElem? offered
  obtain ⟨target, found⟩ := leads _ member
  have rolled := Generator.resolveAll_fails tolerates draws state.stats (readable _ member)
  refine drawsBy_bind (drawsBy_lift (found ▸ failsBy_ok target)) fun _ target _ _ => ?_
  refine drawsBy_bind rolled fun _ rolls _ _ => ?_
  have advanced : FailsBy allowed (advance now selection target state) :=
    advance_fails tolerates.fault selection target
  exact drawsBy_bind (drawsBy_lift advanced) fun _ _ _ _ => drawsBy_pure _

theorem makeChoice_fails [Host] (draws : ∀ low high, DrawsBy allowed (generator.draw low high)) :
    DrawsBy allowed (navigator.makeChoice generator now state index) := by
  refine drawsBy_bind (drawsBy_lift (failsBy_lift tolerates.fault)) fun _ seed _ _ => ?_
  split
  · refine drawsBy_lift ?_
    intro failure failed
    unfold takeSeeded at failed
    split at failed
    · cases failed
    · rename_i problem after taken
      cases failed
      have own := RandomSource.draw_fails tolerates.fault
      exact take_fails tolerates here leads readable own _ _ _ taken
  · exact take_fails tolerates here leads readable draws

end

theorem makeChoice_isOther [Host] (here : navigator.currentNode state = .ok node)
    (leads : ∀ choice ∈ node.choices, ∃ target, navigator.node (.text choice.target) = .ok target) :
    DrawsBy Failure.IsOther (navigator.makeChoice RandomSource.generator now state index) :=
  makeChoice_fails Failure.isOther_tolerates here leads
    (fun _ _ _ _ => DiceFormula.ofText_fails Failure.isOther_tolerates.fault
      (fun _ _ _ => nofun) (fun _ _ _ => nofun) _)
    (RandomSource.draw_fails Failure.isOther_tolerates.fault)

end Navigator
end Gamebook
