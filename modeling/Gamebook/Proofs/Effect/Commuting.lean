import Gamebook.Proofs.Effect.Editing
import Gamebook.Proofs.Effect.Skipping

/-!
Effects that do not get in each other's way. Effects of different kinds or under different names see
nothing of one another, so they can trade places in a batch.
-/
namespace Gamebook

namespace GameState.Contents
open Effect (Shelf Edit Target)

/-- Contents with the tables and the status effects of others. -/
def carrying (contents other : Contents) : Contents := { contents with
  wallets := other.wallets, inventory := other.inventory, stats := other.stats,
  flags := other.flags, effects := other.effects }

/-- The same contents, whatever the order of entries and of status effects, and whenever they were
changed last. -/
structure Agree (one other : Contents) : Prop where
  entries : ∀ shelf key, (one.table shelf).get? key = (other.table shelf).get? key
  effects : one.effects.Perm other.effects
  rest : { one.carrying other with updated := other.updated } = other

/-- What is left of contents without what is at a place. -/
def without (contents : Contents) (place : Target × String) : Contents :=
  contents.edit (.removal place)

variable (contents : Contents)

theorem Agree.refl : contents.Agree contents := ⟨fun _ _ => rfl, .rfl, rfl⟩

theorem get?_edit_congr {one other : Contents} {edit : Edit} {shelf : Shelf} {key : Value}
    (same : (one.table shelf).get? key = (other.table shelf).get? key) :
    ((one.edit edit).table shelf).get? key = ((other.edit edit).table shelf).get? key := by
  by_cases here : ∃ name, key = .text name ∧ (shelf.target, name) = edit.place
  · -- An edit leaves the same at its place, whatever was there.
    obtain ⟨name, rfl, placed⟩ := here
    cases edit with
    | cure | afflict => cases shelf <;> cases placed
    | entry written other left =>
      obtain ⟨kind, rfl⟩ := Prod.mk.inj placed
      obtain rfl := Shelf.target_injective kind
      simp [Contents.edit, Dict.get?_write_self]
  · have apart (name : String) (named : key = .text name) : (shelf.target, name) ≠ edit.place :=
      fun placed => here ⟨name, named, placed⟩
    rw [get?_edit_other one apart, get?_edit_other other apart, same]

theorem get?_edit_comm {first second : Edit} (apart : first.place ≠ second.place) (shelf : Shelf)
    (key : Value) : (((contents.edit first).edit second).table shelf).get? key =
      (((contents.edit second).edit first).table shelf).get? key := by
  by_cases here : ∃ name, key = .text name ∧ (shelf.target, name) = first.place
  · have elsewhere (name : String) (named : key = .text name) :
        (shelf.target, name) ≠ second.place := by
      obtain ⟨_, rfl, placed⟩ := here
      rw [← Value.text.inj named, placed]
      exact apart
    rw [get?_edit_other _ elsewhere]
    exact get?_edit_congr (get?_edit_other contents elsewhere).symm
  · have elsewhere (name : String) (named : key = .text name) :
        (shelf.target, name) ≠ first.place := fun placed => here ⟨name, named, placed⟩
    rw [get?_edit_other (contents.edit second) elsewhere]
    exact get?_edit_congr (get?_edit_other contents elsewhere)

end GameState.Contents

namespace Effect.Edit

/-- The status effects that an edit brings in. -/
def made : Edit → List StatusEffect
  | .afflict name value duration source => [⟨.text name, value, duration, source⟩]
  | _ => []

theorem remove_made {edit : Edit} {name : String} (apart : edit.place ≠ (.status, name)) :
    StatusEffect.remove (.text name) edit.made = edit.made := by
  cases edit with
  | entry | cure => rfl
  | afflict other value duration source =>
    have differs : other ≠ name := fun same => apart (by rw [place, same])
    have kept : (StatusEffect.mk (.text other) value duration source).hasType (.text name) = false := by
      rw [← Bool.not_eq_true, StatusEffect.hasType_text_iff]
      exact fun same => differs (Value.text.inj same)
    simp [made, StatusEffect.remove, kept]

end Effect.Edit

namespace GameState.Contents
open Effect (Shelf Edit Target)
variable (contents : Contents)

theorem effects_edit (edit : Edit) (kind : edit.place.1 ≠ .status) :
    (contents.edit edit).effects = contents.effects := by
  cases edit with
  | entry => simp [Contents.edit]
  | cure | afflict => exact absurd rfl kind

theorem effects_edit_perm {edit : Edit} {name : String} (placed : edit.place = (.status, name)) :
    (contents.edit edit).effects.Perm
      (edit.made ++ StatusEffect.remove (.text name) contents.effects) := by
  cases edit with
  | entry shelf => cases shelf <;> cases placed
  | cure => cases placed; exact .rfl
  | afflict => cases placed; exact StatusEffect.upsert_perm _ _

theorem effects_edit_congr {one other : Contents} (edit : Edit) (same : one.effects = other.effects) :
    (one.edit edit).effects = (other.edit edit).effects := by
  cases edit <;> simp [Contents.edit, same]

theorem effects_edit_twice {first second : Edit} {name other : String}
    (placed : first.place = (.status, name)) (placed' : second.place = (.status, other))
    (apart : first.place ≠ second.place) :
    ((contents.edit first).edit second).effects.Perm (second.made ++ (first.made ++
      StatusEffect.remove (.text other) (StatusEffect.remove (.text name) contents.effects))) := by
  -- What the first brings in has another name, so the second spares it.
  have spared : StatusEffect.remove (.text other)
      (first.made ++ StatusEffect.remove (.text name) contents.effects) =
      first.made ++
        StatusEffect.remove (.text other) (StatusEffect.remove (.text name) contents.effects) := by
    rw [StatusEffect.remove, List.filter_append]
    congr 1
    exact Edit.remove_made (placed' ▸ apart)
  refine (effects_edit_perm _ placed').trans (List.Perm.append_left _ ?_)
  rw [← spared]
  exact (effects_edit_perm contents placed).filter _

theorem effects_edit_comm {first second : Edit} (apart : first.place ≠ second.place) :
    ((contents.edit first).edit second).effects.Perm
      ((contents.edit second).edit first).effects := by
  by_cases kind : first.place.1 = .status
  · by_cases other : second.place.1 = .status
    · have placed : first.place = (.status, first.place.2) := by rw [← kind]
      have placed' : second.place = (.status, second.place.2) := by rw [← other]
      refine (effects_edit_twice contents placed placed' apart).trans ?_
      refine .trans ?_ (effects_edit_twice contents placed' placed apart.symm).symm
      rw [StatusEffect.remove_comm, ← List.append_assoc, ← List.append_assoc]
      exact List.perm_append_comm.append_right _
    · rw [effects_edit _ second other]
      exact .of_eq (effects_edit_congr first (effects_edit contents second other).symm)
  · rw [effects_edit _ first kind]
    exact .of_eq (effects_edit_congr second (effects_edit contents first kind))

theorem carrying_edit (edit : Edit) (other : Contents) :
    (contents.edit edit).carrying other = contents.carrying other := by
  cases edit with
  | entry shelf => cases shelf <;> rfl
  | _ => rfl

/-- Edits at different places can be made in either order. -/
theorem edit_comm {first second : Edit} (apart : first.place ≠ second.place) :
    ((contents.edit first).edit second).Agree ((contents.edit second).edit first) where
  entries := get?_edit_comm contents apart
  effects := effects_edit_comm contents apart
  rest := by
    have same : ((contents.edit first).edit second).carrying ((contents.edit second).edit first) =
        (contents.edit second).edit first := by
      rw [carrying_edit, carrying_edit, ← carrying_edit contents second, ← carrying_edit _ first]
      rfl
    rw [same]

theorem Agree.stamped {one other : Contents} (agree : one.Agree other) (now later : Timestamp) :
    { one with updated := now }.Agree { other with updated := later } where
  entries shelf key := by
    have same := agree.entries shelf key
    cases shelf <;> exact same
  effects := agree.effects
  rest := congrArg (fun contents : Contents => { contents with updated := later }) agree.rest

end GameState.Contents

namespace Effect
open GameState (Contents)
variable {effect : EffectDef} {state : GameState} {contents : Contents}

/-- What becomes of an effect: whether it takes hold, or why it is refused. -/
def fate (effect : EffectDef) (state : GameState) : Outcome Bool :=
  match perform effect state with
  | .ok applied _ => .ok applied
  | .error failure _ => .error failure

/-- The contents after an effect that takes hold; the same for any other. -/
def after (effect : EffectDef) (contents : Contents) : Contents :=
  match demand effect contents with
  | .ok (some edit) => contents.edit edit
  | _ => contents

theorem fate_eq (effect : EffectDef) (contents : Contents) :
    fate effect contents.state = (demand effect contents).map Option.isSome := by
  rw [fate, perform_eq_outcome, outcome_eq]
  cases demand effect contents with
  | error failure => rfl
  | ok asked => cases asked <;> rfl

theorem run_single_state (effect : EffectDef) (contents : Contents) :
    (run contents.state [effect]).state = (after effect contents).state := by
  rw [run, perform_eq_outcome, outcome_eq, after]
  rcases demand effect contents with failure | asked
  · cases failure <;> rfl
  · cases asked <;> rfl

theorem run_single_broken {fault : Fault} : (run state [effect]).broken = some fault ↔
    fate effect state = .error (.fault fault) := by
  rcases perform_cases effect state with ⟨next, performed⟩ | skips | ⟨cause, failed⟩
  · rw [run_cons_applied performed, fate, performed]
    exact ⟨nofun, nofun⟩
  · rw [run_cons_skipped skips, fate]
    rcases skips with ⟨left, unknown⟩ | ⟨failure, left, refused, unbroken⟩
    · rw [unknown]
      exact ⟨nofun, nofun⟩
    · rw [refused]
      exact ⟨nofun, fun same => absurd (Except.error.inj same) (unbroken fault)⟩
  · rw [run_cons_broken failed, fate, failed]
    simp

theorem run_single_applied (effect : EffectDef) (state : GameState) :
    (run state [effect]).applied =
      if (fate effect state).toOption = some true then [effect] else [] := by
  rcases perform_cases effect state with ⟨next, performed⟩ | skips | ⟨cause, failed⟩
  · rw [run_cons_applied performed, fate, performed]
    rfl
  · rw [run_cons_skipped skips, fate]
    rcases skips with ⟨left, unknown⟩ | ⟨failure, left, refused, _⟩
    · rw [unknown]
      rfl
    · rw [refused]
      rfl
  · rw [run_cons_broken failed, fate, failed]
    rfl

section
variable {first second : EffectDef} (contents)
variable (apart : (first.type, first.target) ≠ (second.type, second.target))
include apart

theorem demand_after : demand second (after first contents) = demand second contents := by
  unfold after
  split
  · rename_i edit asks
    obtain ⟨kind, name⟩ := demand_place first contents asks
    apply demand_edit
    rw [← kind, ← name]
    exact apart.symm
  · rfl

theorem fate_after : fate second (run contents.state [first]).state = fate second contents.state := by
  rw [run_single_state, fate_eq, fate_eq, demand_after contents apart]

theorem after_comm :
    (after second (after first contents)).Agree (after first (after second contents)) := by
  have later := demand_after contents apart
  have later' := demand_after contents apart.symm
  unfold after at later later' ⊢
  rw [later, later']
  split
  · rename_i edit asks
    split
    · rename_i other asks'
      apply Contents.edit_comm
      intro same
      obtain ⟨kind, name⟩ := demand_place first contents asks'
      obtain ⟨kind', name'⟩ := demand_place second contents asks
      apply apart
      rw [kind, name, kind', name', same]
    · exact .refl _
  · exact .refl _

theorem run_pair_broken : (run contents.state [first, second]).broken = none ↔
    (run contents.state [first]).broken = none ∧ (run contents.state [second]).broken = none := by
  change (run contents.state ([first] ++ [second])).broken = none ↔ _
  cases broken : (run contents.state [first]).broken with
  | some fault =>
    rw [run_append_broken broken, broken]
    simp
  | none =>
    rw [run_append broken]
    simp only [Option.eq_none_iff_forall_ne_some, ne_eq, run_single_broken, fate_after contents apart]
    simp

theorem run_pair (whole : (run contents.state [first, second]).broken = none) :
    (run contents.state [first, second]).state = (after second (after first contents)).state ∧
    (run contents.state [first, second]).applied =
      (run contents.state [first]).applied ++ (run contents.state [second]).applied := by
  obtain ⟨unbroken, _⟩ := (run_pair_broken contents apart).mp whole
  have joined : run contents.state [first, second] = _ := run_append unbroken [second]
  rw [joined]
  refine ⟨?_, ?_⟩
  · rw [run_single_state, run_single_state]
  · simp only [run_single_applied, fate_after contents apart]

end

theorem applyAll_whole {now : Timestamp} {effects : List EffectDef} (some : effects ≠ [])
    (whole : (run state effects).broken = none) :
    (applyAll now effects state).state = (run state effects).state.touch now := by
  simp [applyAll, some, whole]

theorem perform_without {next : GameState} (performed : perform effect contents.state = .ok true next) :
    ∃ (changed : Contents) (place : Target × String), next = changed.state ∧
      effect.type = place.1.name ∧ effect.target = place.2 ∧
      changed.without place = contents.without place := by
  obtain ⟨edit, asks, rfl⟩ := (perform_eq_some effect contents).mp performed
  obtain ⟨kind, name⟩ := demand_place effect contents asks
  exact ⟨_, edit.place, rfl, kind, name, contents.removal_edit edit⟩

/-- Two effects of different kinds or names fare the same in either order and leave the same behind;
what takes hold changes nothing but the entry that it names. -/
theorem applyAll_comm (accepted : state.validate = .ok ()) {first second : EffectDef}
    (apart : (first.type, first.target) ≠ (second.type, second.target)) (now later : Timestamp) :
    let ahead := applyAll now [first, second] state
    let back := applyAll later [second, first] state
    fate first (run state [second]).state = fate first state ∧
    fate second (run state [first]).state = fate second state ∧
    (ahead.broken = none ↔ back.broken = none) ∧
    (ahead.broken = none → ahead.applied.Perm back.applied ∧
      ∃ one other : Contents, ahead.state = one.state ∧ back.state = other.state ∧ one.Agree other) ∧
    ∀ (contents : Contents) (effect : EffectDef) (next : GameState),
      perform effect contents.state = .ok true next →
      ∃ (changed : Contents) (place : Target × String), next = changed.state ∧
        effect.type = place.1.name ∧ effect.target = place.2 ∧
        changed.without place = contents.without place := by
  obtain ⟨contents, rfl, _⟩ := GameState.validate_eq_ok.mp accepted
  have both : (run contents.state [first, second]).broken = none ↔
      (run contents.state [second, first]).broken = none := by
    rw [run_pair_broken contents apart, run_pair_broken contents apart.symm, and_comm]
  dsimp only
  rw [applyAll_broken, applyAll_broken]
  refine ⟨fate_after contents apart.symm, fate_after contents apart, both, fun whole => ?_,
    fun _ _ _ => perform_without⟩
  have whole' := both.mp whole
  obtain ⟨left, applied⟩ := run_pair contents apart whole
  obtain ⟨left', applied'⟩ := run_pair contents apart.symm whole'
  refine ⟨?_, _, _, ?_, ?_, (after_comm contents apart).stamped now later⟩
  · obtain ⟨_, _, reported⟩ := applyAll_state now [first, second] contents.state
    obtain ⟨_, _, reported'⟩ := applyAll_state later [second, first] contents.state
    rw [reported, reported', applied, applied']
    exact List.perm_append_comm
  · rw [applyAll_whole (by simp) whole, left]
    rfl
  · rw [applyAll_whole (by simp) whole', left']
    rfl

open Story.Lighthouse in
theorem applyAll_comm_wreckage :
    let gold := Story.Lighthouse.effect "wallet" "gold" "add" (.int 15)
    let rope := Story.Lighthouse.effect "inventory" "rope" "add" (.int 1)
    opening.validate = .ok () ∧ (gold.type, gold.target) ≠ (rope.type, rope.target) ∧
    (applyAll morning [gold, rope] opening).broken = none ∧
    ∃ one other : Contents, (applyAll morning [gold, rope] opening).state = one.state ∧
      (applyAll morning [rope, gold] opening).state = other.state ∧ one.Agree other := by
  intro gold rope
  obtain ⟨_, accepted⟩ : ∃ done, opening.validate = .ok done := ok_of_isOk (by decide +kernel)
  have apart : (gold.type, gold.target) ≠ (rope.type, rope.target) := by decide
  have whole : (applyAll morning [gold, rope] opening).broken = none := by decide +kernel
  obtain ⟨_, _, _, alike, _⟩ := applyAll_comm accepted apart morning morning
  exact ⟨accepted, apart, whole, (alike whole).2⟩

end Effect
end Gamebook
