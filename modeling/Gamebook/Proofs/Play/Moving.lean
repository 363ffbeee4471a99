import Gamebook.Proofs.Effect.Altering
import Gamebook.Proofs.Play.Taking

/-!
A choice that is taken, told by what it does to the contents of a state.
-/
namespace Gamebook

namespace GameState

theorem copy_contents [Host] {contents : Contents} {copy : GameState}
    (copied : contents.state.copy = .ok copy) : copy = contents.state := by
  obtain ⟨visits, history, stats, wallets, inventory, effects, visited, logged, statsRead,
    walletsRead, inventoryRead, _, effectsRead, rfl⟩ := copy_eq_ok copied
  cases visited
  cases statsRead
  cases walletsRead
  cases inventoryRead
  cases (Loose.entries_known contents.history).symm.trans logged
  cases (Loose.entries_known contents.effects).symm.trans effectsRead
  rfl

/-- Altered contents once a choice is recorded and its target entered. -/
def Contents.arrived (now : Timestamp) (history : List ChoiceRecord) (visits : List Value)
    (lasting : List StatusEffect) (target : String) (altered : Contents) : Contents :=
  { altered with
    node := target
    visits := withVisit visits (.text target)
    history := history
    effects := lasting
    updated := now }

end GameState

namespace Navigator
open GameState (Contents)

/-- The contents that a choice leads to. -/
inductive Moves (navigator : Navigator) (now : Timestamp) (contents : Contents) : Contents → Prop
  | intro (node target : StoryNode) (place : Nat) (choice : StoryChoice)
      (applied : List EffectDef) (altered : Contents) (lasting : List StatusEffect)
      (here : navigator.currentNode contents.state = .ok node)
      (chosen : node.choices[place]? = some choice)
      (leads : navigator.node (.text choice.target) = .ok target)
      (alters : Effect.Altered contents applied altered)
      (offered : applied.Sublist choice.effects)
      (ticked : StatusEffect.tickAll (altered.effects.map .known) = .ok lasting) :
      Moves navigator now contents (altered.arrived now
        (contents.history ++ [node.record now place choice]) contents.visits lasting target.id)

theorem Taken.moves [Host] {navigator : Navigator} {now : Timestamp} {contents : Contents}
    {index : Value}
    {transition : Transition} (taken : navigator.Taken now contents.state index transition) :
    ∃ next : Contents, transition.state = next.state ∧ navigator.Moves now contents next := by
  cases taken with
  | intro node target place choice copy changed applied history visits entries lasting rolls here
      goesOn named chosen leads copied changes offered logged visited held ticked =>
    obtain rfl := GameState.copy_contents copied
    obtain ⟨altered, rfl, alters⟩ := changes.altered
    cases (Loose.entries_known contents.history).symm.trans logged
    cases visited
    cases held
    exact ⟨_, by rfl, .intro node target place choice applied altered lasting here chosen leads
      alters offered ticked⟩

end Navigator
end Gamebook
