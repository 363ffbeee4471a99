import Gamebook.Proofs.Effect.Skipping
import Gamebook.Proofs.Effect.StatusMap
import Gamebook.Proofs.Play.Lawful

/-!
How long status effects last. Turns that pass one after the other leave of each effect what its
duration tells, whatever else is in the list; and an effect that is in place stays as it is as long
as no other effect names its type.
-/
namespace Gamebook

namespace StatusEffect

/-- The duration is missing or a whole number, of either sign. -/
def IsCounted (effect : StatusEffect) : Prop :=
  effect.duration = .null ∨ ∃ turns : Int, effect.duration = .int turns

/-- What is left after some turns, at least one: all of what is permanent, and of a duration that is
greater than the number of turns the difference. -/
def after (turns : Nat) (effect : StatusEffect) : Option StatusEffect :=
  match effect.duration with
  | .int duration =>
    if turns < duration then some { effect with duration := .int (duration - turns) } else none
  | _ => some effect

variable {effect : StatusEffect} {effects lasting : List StatusEffect} {name : String}

theorem after_permanent (permanent : effect.duration = .null) (turns : Nat) :
    effect.after turns = some effect := by
  simp [after, permanent]

theorem after_timed {duration : Int} (timed : effect.duration = .int duration) (turns : Nat) :
    effect.after turns =
      if turns < duration then some { effect with duration := .int (duration - turns) } else none := by
  simp [after, timed]

theorem Lasts.isCounted {least : Int} (lasts : effect.Lasts least) : effect.IsCounted :=
  lasts.imp_right fun ⟨turns, timed, _⟩ => ⟨turns, timed⟩

theorem IsCounted.tick (counted : effect.IsCounted) : effect.tick = .ok (effect.after 1) := by
  rcases counted with permanent | ⟨turns, timed⟩
  · simp [StatusEffect.tick, after, permanent, Value.present?]
  · simp [StatusEffect.tick, after, timed, Value.present?, Value.countable?, Value.number?]

theorem IsCounted.after {left : StatusEffect} (counted : effect.IsCounted) {turns : Nat}
    (lasts : effect.after turns = some left) : left.IsCounted := by
  rcases counted with permanent | ⟨duration, timed⟩
  · rw [after_permanent permanent] at lasts
    cases lasts
    exact .inl permanent
  · rw [after_timed timed] at lasts
    split at lasts
    · cases lasts
      exact .inr ⟨_, rfl⟩
    · cases lasts

theorem IsCounted.after_succ (counted : effect.IsCounted) (turns : Nat) :
    (effect.after turns).bind (·.after 1) = effect.after (turns + 1) := by
  rcases counted with permanent | ⟨duration, timed⟩
  · simp [after_permanent permanent]
  · rw [after_timed timed, after_timed timed]
    by_cases long : (turns : Int) < duration
    · have more : ((1 : Nat) : Int) < duration - turns ↔ ((turns + 1 : Nat) : Int) < duration := by
        omega
      have left : duration - turns - ((1 : Nat) : Int) = duration - ((turns + 1 : Nat) : Int) := by
        omega
      rw [if_pos long, Option.bind_some, after_timed rfl]
      simp only [more, left]
    · have gone : ¬((turns + 1 : Nat) : Int) < duration := by omega
      rw [if_neg long, if_neg gone]
      rfl

theorem tickAll_counted (counted : ∀ effect ∈ effects, effect.IsCounted) :
    tickAll (effects.map .known) = .ok (effects.filterMap (·.after 1)) := by
  have each : ∀ entry ∈ effects.map Loose.known,
      (do tick (← entry.get) : Except Fault (Option StatusEffect)) =
        .ok (match entry with | .known effect => effect.after 1 | .other _ => none) := by
    intro entry member
    obtain ⟨effect, inside, rfl⟩ := List.mem_map.mp member
    exact (counted effect inside).tick
  unfold tickAll
  rw [mapM_of_ok each, List.map_map]
  simp [Function.comp_def, pure, Except.pure, bind, Except.bind, List.filterMap_map]

/-- The effects of one type are those that are left of the effects of that type. -/
theorem filter_tickAll (ticked : tickAll (effects.map .known) = .ok lasting)
    (counted : ∀ effect ∈ effects, effect.hasType (.text name) = true → effect.IsCounted) :
    lasting.filter (·.hasType (.text name)) =
      (effects.filter (·.hasType (.text name))).filterMap (·.after 1) := by
  induction effects generalizing lasting with
  | nil =>
    cases ticked
    rfl
  | cons effect effects ih =>
    obtain ⟨left, others, first, rest, rfl⟩ := tickAll_cons ticked
    obtain ⟨here, there⟩ := List.forall_mem_cons.mp counted
    have typed : ∀ lasts ∈ left, lasts.hasType (.text name) = effect.hasType (.text name) := by
      intro lasts member
      rw [Option.mem_def.mp member] at first
      rw [tick_eq first]
      rfl
    rw [List.filter_append, ih rest there, List.filter_cons]
    cases own : effect.hasType (.text name) with
    | false =>
      have none : left.toList.filter (·.hasType (.text name)) = [] := by
        simp [List.filter_eq_nil_iff, Option.mem_toList]
        intro lasts member
        rw [typed lasts member, own]
      rw [none]
      rfl
    | true =>
      have all : left.toList.filter (·.hasType (.text name)) = left.toList := by
        simp [List.filter_eq_self, Option.mem_toList]
        intro lasts member
        rw [typed lasts member, own]
      obtain rfl := Except.ok.inj (first.symm.trans (here own).tick)
      rw [all, if_pos rfl]
      cases last : effect.after 1 <;> simp [last]

theorem filter_remove_other {other : String} (apart : other ≠ name) (effects : List StatusEffect) :
    (remove (.text other) effects).filter (·.hasType (.text name)) =
      effects.filter (·.hasType (.text name)) := by
  rw [remove, List.filter_filter]
  refine List.filter_congr fun effect _ => ?_
  cases own : effect.hasType (.text name) with
  | false => rfl
  | true =>
    have named := hasType_text_iff.mp own
    have strange : effect.hasType (.text other) = false := by
      rw [Bool.eq_false_iff, Ne, hasType_text_iff, named]
      exact fun same => apart (Value.text.inj same).symm
    rw [strange]
    rfl

theorem filter_upsert_other {other : String} (typed : effect.type = .text other)
    (apart : other ≠ name) (effects : List StatusEffect) :
    (upsert effect effects).filter (·.hasType (.text name)) =
      effects.filter (·.hasType (.text name)) := by
  have strange : effect.hasType (.text name) = false := by
    rw [Bool.eq_false_iff, Ne, hasType_text_iff, typed]
    exact fun same => apart (Value.text.inj same)
  rw [← filter_remove_other apart (upsert effect effects), remove_upsert typed,
    filter_remove_other apart]

end StatusEffect

namespace Effect
variable {effect : EffectDef} {state next final : GameState} {name : String}

def passTurns : Nat → GameState → Except Fault GameState
  | 0, state => .ok state
  | turns + 1, state => do
    passTurn (← passTurns turns state)

theorem passTurn_counted {effects : List StatusEffect}
    (held : state.statusEffects = .known (effects.map .known))
    (counted : ∀ effect ∈ effects, effect.IsCounted) : passTurn state =
      .ok { state with statusEffects := .known ((effects.filterMap (·.after 1)).map .known) } := by
  refine bind_eq_ok.mpr ⟨effects.map .known, by rw [held]; rfl, ?_⟩
  exact bind_eq_ok.mpr ⟨_, StatusEffect.tickAll_counted counted, rfl⟩

theorem passTurns_counted {effects : List StatusEffect}
    (held : state.statusEffects = .known (effects.map .known))
    (counted : ∀ effect ∈ effects, effect.IsCounted) (turns : Nat) : passTurns (turns + 1) state =
      .ok { state with
        statusEffects := .known ((effects.filterMap (·.after (turns + 1))).map .known) } := by
  induction turns with
  | zero => exact bind_eq_ok.mpr ⟨state, rfl, passTurn_counted held counted⟩
  | succ turns ih =>
    have left : ∀ effect ∈ effects.filterMap (·.after (turns + 1)), effect.IsCounted := by
      intro effect member
      obtain ⟨source, inside, lasts⟩ := List.mem_filterMap.mp member
      exact (counted source inside).after lasts
    have again : (effects.filterMap (·.after (turns + 1))).filterMap (·.after 1) =
        effects.filterMap (·.after (turns + 1 + 1)) := by
      rw [List.filterMap_filterMap]
      apply List.filterMap_congr
      intro effect member
      exact (counted effect member).after_succ (turns + 1)
    refine bind_eq_ok.mpr ⟨_, ih, ?_⟩
    rw [passTurn_counted rfl left, again]

end Effect

namespace EffectDef

/-- Puts a status in place. -/
structure Inflicts (effect : EffectDef) : Prop where
  kind : effect.type = Effect.Target.status.name
  operation : effect.operation = "add" ∨ effect.operation = "set"

/-- Puts a status of a type in place, or takes it away. -/
def Touches (name : String) (effect : EffectDef) : Prop :=
  effect.type = Effect.Target.status.name ∧ effect.target = name

end EffectDef

/-- The status of a type that a state bears, if any. -/
def GameState.Bears (name : String) (own : Option StatusEffect) (state : GameState) : Prop :=
  ∃ effects, state.statusEffects.entries = .ok effects ∧
    effects.filter (·.hasType (.text name)) = own.toList

theorem GameState.copy_bears [Host] {state copy : GameState} {name : String}
    {own : Option StatusEffect}
    (copied : state.copy = .ok copy) (bears : state.Bears name own) : copy.Bears name own := by
  obtain ⟨effects, held, mine⟩ := bears
  obtain ⟨_, _, _, _, _, read, _, _, _, _, _, _, entries, rfl⟩ := copy_eq_ok copied
  obtain rfl := Except.ok.inj (entries.symm.trans held)
  exact ⟨read, Loose.entries_known read, mine⟩

namespace Effect
variable {effect : EffectDef} {effects before rest : List EffectDef} {state next final : GameState}
  {name : String} {own : Option StatusEffect}

theorem Change.bears (change : Change effect state next) (untouched : ¬effect.Touches name)
    (bears : state.Bears name own) : next.Bears name own := by
  obtain ⟨effects, held, mine⟩ := bears
  have apart (kind : effect.type = Target.status.name) : effect.target ≠ name :=
    fun same => untouched ⟨kind, same⟩
  cases change with
  | cured others kind there =>
    obtain rfl := Except.ok.inj (there.symm.trans held)
    refine ⟨_, Loose.entries_known _, ?_⟩
    rw [StatusEffect.filter_remove_other (apart kind), mine]
  | afflicted others status kind there made =>
    obtain rfl := Except.ok.inj (there.symm.trans held)
    refine ⟨_, Loose.entries_known _, ?_⟩
    rw [StatusEffect.filter_upsert_other (statusOf_lasts made).1 (apart kind), mine]
  | _ => exact ⟨effects, held, mine⟩

theorem Changes.bears (changes : Changes state effects final)
    (untouched : ∀ effect ∈ effects, ¬effect.Touches name) (bears : state.Bears name own) :
    final.Bears name own := by
  apply changes.keep (·.Bears name own) _ bears
  intro effect member before after bears change
  exact change.bears (untouched effect member) bears

/-- What puts a status in place leaves no other of its type. -/
theorem perform_inflicts (inflicts : effect.Inflicts) (performed : perform effect state = .ok true next) :
    ∃ status, statusOf effect = .ok status ∧ next.Bears effect.target (some status) := by
  have kind : Target.ofName? effect.type = some .status := by
    rw [inflicts.kind]
    decide
  have applied : statusOutcome effect state = .ok next := by
    have reached := perform_eq_true.mp performed
    unfold outcome at reached
    rw [kind] at reached
    obtain ⟨changed, applied, rest⟩ := bind_eq_ok.mp reached
    obtain rfl := Option.some.inj (pure_eq_ok.mp rest)
    exact applied
  have inflicted : (do
      let status ← statusOf effect
      let effects ← Fault.lift state.statusEffects.entries
      return { state with
        statusEffects := .known ((StatusEffect.upsert status effects).map .known) }) = .ok next := by
    have known : Operation.ofName? "add" = some .add ∧ Operation.ofName? "set" = some .set := by
      decide
    unfold statusOutcome at applied
    rcases inflicts.operation with operation | operation
    · rwa [operation, known.1] at applied
    · rwa [operation, known.2] at applied
  obtain ⟨status, made, rest⟩ := bind_eq_ok.mp inflicted
  obtain ⟨effects, held, rest⟩ := bind_eq_ok.mp rest
  obtain rfl := pure_eq_ok.mp rest
  refine ⟨status, made, _, Loose.entries_known _, ?_⟩
  exact StatusEffect.filter_upsert (statusOf_lasts made).1 effects

/-- Where an effect took hold in a batch, and what took hold after it. -/
theorem run_applied_at (ran : (run state effects).applied = before ++ effect :: rest) :
    ∃ between next, perform effect between = .ok true next ∧
      Changes next rest (run state effects).state := by
  induction effects generalizing state before with
  | nil => simp [run] at ran
  | cons first effects ih =>
    rcases perform_cases first state with ⟨next, performed⟩ | skips | ⟨fault, broken⟩
    · rw [run_cons_applied performed] at ran ⊢
      cases before with
      | nil =>
        obtain ⟨rfl, rfl⟩ := List.cons.inj ran
        exact ⟨state, next, performed, run_changes next effects⟩
      | cons _ before => exact ih (List.cons.inj ran).2
    · rw [run_cons_skipped skips] at ran ⊢
      exact ih ran
    · rw [run_cons_broken broken] at ran
      simp at ran

theorem run_inflicts (ran : (run state effects).applied = before ++ effect :: rest)
    (inflicts : effect.Inflicts) (untouched : ∀ other ∈ rest, ¬other.Touches effect.target) :
    ∃ status, statusOf effect = .ok status ∧
      (run state effects).state.Bears effect.target (some status) := by
  obtain ⟨between, next, performed, changes⟩ := run_applied_at ran
  obtain ⟨status, made, bears⟩ := perform_inflicts inflicts performed
  exact ⟨status, made, changes.bears untouched bears⟩

theorem bears_tickAll {entries : List (Loose StatusEffect)} {lasting : List StatusEffect}
    (bears : state.Bears name own) (counted : ∀ status ∈ own, status.IsCounted)
    (held : state.statusEffects.items .other = .ok entries)
    (ticked : StatusEffect.tickAll entries = .ok lasting) :
    lasting.filter (·.hasType (.text name)) = (own.bind (·.after 1)).toList := by
  obtain ⟨effects, read, mine⟩ := bears
  obtain rfl := Except.ok.inj ((Loose.items_of_entries read).symm.trans held)
  have all : ∀ effect ∈ effects, effect.hasType (.text name) = true → effect.IsCounted := by
    intro effect member typed
    have inside : effect ∈ own.toList := mine ▸ List.mem_filter.mpr ⟨member, typed⟩
    exact counted effect (Option.mem_toList.mp inside)
  rw [StatusEffect.filter_tickAll ticked all, mine]
  cases own with
  | none => rfl
  | some status => cases last : status.after 1 <;> simp [last]

end Effect
end Gamebook
