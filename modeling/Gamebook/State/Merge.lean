import Gamebook.Failure
import Gamebook.State.Basic
import Gamebook.Value.Arithmetic

/-!
Reconciling two states of one playthrough, and telling whether two states are equal.
-/
namespace Gamebook

def Value.distinct (values : List Value) : List Value :=
  values.foldl (fun seen value => if value.isAmong seen then seen else seen ++ [value]) []

namespace Loose

def isAfter (a b : Loose Timestamp) : Except Fault Bool :=
  match a, b with
  | .known a, .known b => match a.isAfter? b with
    | some answer => .ok answer
    | none => .error .wrongKind
  | .other a, .other b => a.isAbove b
  | _, _ => .error .wrongKind

def same {α : Type} (sameEntry : α → α → Bool) : Loose α → Loose α → Bool
  | .known a, .known b => sameEntry a b
  | .other a, .other b => a.same b
  | _, _ => false

end Loose

def ChoiceRecord.same (a b : ChoiceRecord) : Bool :=
  a.nodeId.same b.nodeId && a.choiceIndex.same b.choiceIndex && a.choiceText.same b.choiceText
    && a.timestamp.same Timestamp.sameInstant b.timestamp

def StatusEffect.same (a b : StatusEffect) : Bool :=
  a.type.same b.type && a.value.same b.value && a.duration.same b.duration && a.source.same b.source

def Dict.same (a b : Dict) : Bool := Value.same (.view a) (.view b)

def sameList {α : Type} (sameEntry : α → α → Bool) : List α → List α → Bool
  | [], [] => true
  | a :: as, b :: bs => sameEntry a b && sameList sameEntry as bs
  | _, _ => false

namespace GameState

/-- Equality in every field; tables are compared regardless of their order. -/
def same (a b : GameState) : Bool :=
  a.playerId.same b.playerId && a.storyId.same b.storyId && a.saveId.same b.saveId
    && a.currentNodeId.same b.currentNodeId
    && a.visitedNodes.same (sameList Value.same) b.visitedNodes
    && a.choicesHistory.same (sameList (Loose.same ChoiceRecord.same)) b.choicesHistory
    && a.stats.same Dict.same b.stats && a.wallets.same Dict.same b.wallets
    && a.inventory.same Dict.same b.inventory && a.flags.same Dict.same b.flags
    && a.statusEffects.same (sameList (Loose.same StatusEffect.same)) b.statusEffects
    && a.createdAt.same Timestamp.sameInstant b.createdAt
    && a.updatedAt.same Timestamp.sameInstant b.updatedAt && a.seed.same b.seed

def mergedVisits (primary secondary : GameState) : Except Fault (List Value) := do
  let visits := (← primary.visitedNodes.items id) ++ (← secondary.visitedNodes.items id)
  if visits.all Value.isKey then return Value.distinct visits else throw .wrongKind

/-- The first state with the visits of both and the later stamp. -/
def merge [Host] (primary secondary : GameState) : Outcome GameState :=
  if primary.playerId.equals secondary.playerId && primary.storyId.equals secondary.storyId then do
    let copy ← Fault.lift primary.copy
    let visits ← Fault.lift (mergedVisits primary secondary)
    let later ← Fault.lift (secondary.updatedAt.isAfter primary.updatedAt)
    return { copy with
      visitedNodes := .known visits
      updatedAt := if later then secondary.updatedAt else primary.updatedAt }
  else .error .differentPlaythroughs

end GameState
end Gamebook
