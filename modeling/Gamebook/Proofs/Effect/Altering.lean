import Gamebook.Proofs.Effect.Change
import Gamebook.Proofs.Effect.StatusList
import Gamebook.Proofs.State.Validation
import Gamebook.Proofs.Table

/-!
What effects do to the contents of a state. Of each table an effect opens the entry under its own
name and no other, and of the status effects the ones of its own type.
-/
namespace Gamebook

/-- A whole number that is at least `least`. -/
def Value.IsWhole (least : Int) (value : Value) : Prop :=
  ∃ whole : Int, value = .int whole ∧ least ≤ whole

/-- What can become of a table when only the entry under one name is open to change. -/
inductive Dict.Rewritten (name : String) (allowed : Value → Prop) (table : Dict) : Dict → Prop
  | untouched : Rewritten name allowed table table
  | erased : Rewritten name allowed table (table.erase (.text name))
  | written {value : Value} (ok : allowed value) :
      Rewritten name allowed table (table.insert (.text name) value)

namespace Dict.Rewritten
variable {name : String} {allowed : Value → Prop} {table next : Dict}

theorem keys (rewritten : Rewritten name allowed table next) (kept : Value → Prop)
    (old : ∀ entry ∈ table, kept entry.1) (own : kept (.text name)) :
    ∀ entry ∈ next, kept entry.1 := by
  intro entry member
  cases rewritten with
  | untouched => exact old entry member
  | erased => exact old entry (Assoc.mem_erase.mp member).1
  | written ok =>
    rcases Assoc.key_of_mem_insert member with same | ⟨before, inside, same⟩
    · exact same ▸ own
    · exact same ▸ old before inside

theorem values (rewritten : Rewritten name allowed table next) (kept : Value → Prop)
    (old : ∀ entry ∈ table, kept entry.2) (new : ∀ value, allowed value → kept value) :
    ∀ entry ∈ next, kept entry.2 := by
  intro entry member
  cases rewritten with
  | untouched => exact old entry member
  | erased => exact old entry (Assoc.mem_erase.mp member).1
  | written ok =>
    rcases Assoc.mem_insert member with same | ⟨inside, _⟩
    · exact same ▸ new _ ok
    · exact old entry inside

end Dict.Rewritten

namespace Effect

theorem refuseDuration_ne_ok (given duration : Value) : refuseDuration given ≠ .ok duration := by
  unfold refuseDuration
  split <;> simp [refuse]

theorem statusOf_lasts {effect : EffectDef} {status : StatusEffect}
    (made : statusOf effect = .ok status) : status.type = .text effect.target ∧ status.Lasts 0 := by
  obtain ⟨amount, _, rest⟩ := bind_eq_ok.mp made
  obtain ⟨duration, timed, rest⟩ := bind_eq_ok.mp rest
  obtain ⟨source, _, rest⟩ := bind_eq_ok.mp rest
  obtain rfl := pure_eq_ok.mp rest
  refine ⟨rfl, ?_⟩
  unfold durationOf at timed
  split at timed
  · cases timed
    exact .inl rfl
  · rename_i turns _
    split at timed
    · exact absurd timed (refuseDuration_ne_ok _ _)
    · rename_i positive
      cases timed
      exact .inr ⟨turns, rfl, by omega⟩
  · exact absurd timed (refuseDuration_ne_ok _ _)

/-- What can become of the status effects when one effect takes hold. -/
inductive Relisted (effect : EffectDef) (effects : List StatusEffect) : List StatusEffect → Prop
  | untouched : Relisted effect effects effects
  | cured : Relisted effect effects (StatusEffect.remove (.text effect.target) effects)
  | afflicted {status : StatusEffect} (made : statusOf effect = .ok status) :
      Relisted effect effects (StatusEffect.upsert status effects)

namespace Relisted
variable {effect : EffectDef} {effects next : List StatusEffect}

theorem members (relisted : Relisted effect effects next) (kept : StatusEffect → Prop)
    (old : ∀ status ∈ effects, kept status)
    (new : ∀ status, statusOf effect = .ok status → kept status) : ∀ status ∈ next, kept status := by
  intro status member
  cases relisted with
  | untouched => exact old status member
  | cured => exact old status (StatusEffect.mem_remove.mp member).1
  | afflicted made =>
    rcases StatusEffect.mem_upsert member with rfl | inside
    · exact new _ made
    · exact old status inside

theorem distinct (relisted : Relisted effect effects next) (apart : StatusEffect.Distinct effects) :
    StatusEffect.Distinct next := by
  cases relisted with
  | untouched => exact apart
  | cured => exact StatusEffect.remove_distinct _ apart
  | afflicted made => exact StatusEffect.upsert_distinct (statusOf_lasts made).1 apart

end Relisted

open GameState (Contents)

/-- What one effect can do at most: rewrite the entries of its name, and the status effects of its
type. Everything else stays. -/
inductive Alters (effect : EffectDef) (contents : Contents) : Contents → Prop
  | intro (wallets inventory stats flags : Dict) (effects : List StatusEffect)
      (balances : Dict.Rewritten effect.target (Value.IsWhole balanceFloor) contents.wallets wallets)
      (quantities : Dict.Rewritten effect.target (Value.IsWhole (quantityFloor + 1))
        contents.inventory inventory)
      (scores : Dict.Rewritten effect.target (Value.IsWhole statFloor) contents.stats stats)
      (marks : Dict.Rewritten effect.target
        (fun value => value = effect.value ∨ ∃ number : Number, value = number.toValue ∧ number.Settled)
        contents.flags flags)
      (statuses : Relisted effect contents.effects effects) :
      Alters effect contents { contents with
        wallets := wallets
        inventory := inventory
        stats := stats
        flags := flags
        effects := effects }

variable {effect : EffectDef} {effects : List EffectDef} {next final : GameState}
  {contents after : Contents}

theorem Change.alters (change : Change effect contents.state next) :
    ∃ after : Contents, next = after.state ∧ Alters effect contents after := by
  cases change with
  | balance wallets balance kind held bound =>
    cases held
    exact ⟨_, by rfl, .intro _ _ _ _ _ (.written ⟨balance, rfl, bound⟩) .untouched .untouched
      .untouched .untouched⟩
  | stock inventory quantity kind held bound =>
    cases held
    exact ⟨_, by rfl, .intro _ _ _ _ _ .untouched (.written ⟨quantity, rfl, bound⟩) .untouched
      .untouched .untouched⟩
  | usedUp inventory kind held =>
    cases held
    exact ⟨_, by rfl, .intro _ _ _ _ _ .untouched .erased .untouched .untouched .untouched⟩
  | stat stats value kind held bound =>
    cases held
    exact ⟨_, by rfl, .intro _ _ _ _ _ .untouched .untouched (.written ⟨value, rfl, bound⟩)
      .untouched .untouched⟩
  | flag flags value kind held source =>
    cases held
    exact ⟨_, by rfl, .intro _ _ _ _ _ .untouched .untouched .untouched (.written source) .untouched⟩
  | cured effects kind held =>
    cases (Loose.entries_known contents.effects).symm.trans held
    exact ⟨_, by rfl, .intro _ _ _ _ _ .untouched .untouched .untouched .untouched .cured⟩
  | afflicted effects status kind held made =>
    cases (Loose.entries_known contents.effects).symm.trans held
    exact ⟨_, by rfl, .intro _ _ _ _ _ .untouched .untouched .untouched .untouched (.afflicted made)⟩

/-- What effects can do to contents one after the other. -/
inductive Altered : Contents → List EffectDef → Contents → Prop
  | done (contents : Contents) : Altered contents [] contents
  | more {effect : EffectDef} {effects : List EffectDef} {contents between after : Contents}
      (first : Alters effect contents between) (rest : Altered between effects after) :
      Altered contents (effect :: effects) after

theorem Changes.altered (changes : Changes contents.state effects final) :
    ∃ after : Contents, final = after.state ∧ Altered contents effects after := by
  generalize same : contents.state = state at changes
  induction changes generalizing contents with
  | done => exact ⟨contents, same.symm, .done contents⟩
  | more first rest ih =>
    subst same
    obtain ⟨between, rfl, alters⟩ := first.alters
    obtain ⟨after, reached, later⟩ := ih rfl
    exact ⟨after, reached, .more alters later⟩

theorem Altered.keep (batch : Altered contents effects after) (kept : Contents → Prop)
    (step : ∀ effect ∈ effects, ∀ before next, kept before → Alters effect before next → kept next)
    (start : kept contents) : kept after := by
  induction batch with
  | done => exact start
  | more first rest ih =>
    exact ih (fun effect member => step effect (.tail _ member)) (step _ (.head _) _ _ start first)

end Effect
end Gamebook
