import Gamebook.Effect.Status
import Gamebook.Proofs.State.Shape
import Gamebook.Proofs.Value.Equality
import Gamebook.State.Validate

/-!
Lists of status effects as the game changes them: an effect that is put in place has a text for its
type, types that differ stay different, and a turn leaves positive durations.
-/
namespace Gamebook.StatusEffect

/-- No two effects are of one type. -/
def Distinct (effects : List StatusEffect) : Prop := (effects.map (·.type)).Nodup

theorem hasType_text_iff {effect : StatusEffect} {name : String} :
    effect.hasType (.text name) = true ↔ effect.type = .text name := Value.equals_text_iff

theorem mem_remove {effect : StatusEffect} {name : String} {effects : List StatusEffect} :
    effect ∈ remove (.text name) effects ↔ effect ∈ effects ∧ effect.type ≠ .text name := by
  simp [remove, ← hasType_text_iff]

theorem remove_distinct {effects : List StatusEffect} (type : Value) (distinct : Distinct effects) :
    Distinct (remove type effects) :=
  (List.Sublist.map _ List.filter_sublist).nodup distinct

theorem mem_upsert {effect member : StatusEffect} {effects : List StatusEffect}
    (inside : member ∈ upsert effect effects) : member = effect ∨ member ∈ effects := by
  induction effects with
  | nil => exact .inl (List.mem_singleton.mp inside)
  | cons first rest ih =>
    unfold upsert at inside
    split at inside
    · rcases List.mem_cons.mp inside with here | there
      · exact .inl here
      · exact .inr (.tail _ (List.mem_filter.mp there).1)
    · rcases List.mem_cons.mp inside with here | there
      · exact .inr (here ▸ .head _)
      · rcases ih there with same | member
        · exact .inl same
        · exact .inr (.tail _ member)

theorem upsert_distinct {effect : StatusEffect} {name : String} {effects : List StatusEffect}
    (typed : effect.type = .text name) (distinct : Distinct effects) :
    Distinct (upsert effect effects) := by
  induction effects with
  | nil => simp [Distinct, upsert]
  | cons first rest ih =>
    obtain ⟨new, distinct⟩ := List.nodup_cons.mp distinct
    unfold upsert
    split
    · refine List.nodup_cons.mpr ⟨?_, remove_distinct _ distinct⟩
      intro there
      obtain ⟨other, member, same⟩ := List.mem_map.mp there
      rw [typed] at member
      exact (mem_remove.mp member).2 (same.trans typed)
    · rename_i differs
      refine List.nodup_cons.mpr ⟨?_, ih distinct⟩
      intro there
      obtain ⟨other, member, same⟩ := List.mem_map.mp there
      rcases mem_upsert member with rfl | member
      · rw [typed] at differs same
        exact differs (hasType_text_iff.mpr same.symm)
      · exact new (List.mem_map.mpr ⟨other, member, same⟩)

theorem remove_comm (type other : Value) (effects : List StatusEffect) :
    remove type (remove other effects) = remove other (remove type effects) := by
  simp only [remove, List.filter_filter, Bool.and_comm]

theorem remove_remove (type : Value) (effects : List StatusEffect) :
    remove type (remove type effects) = remove type effects := by
  simp [remove, List.filter_filter]

theorem upsert_perm (effect : StatusEffect) (effects : List StatusEffect) :
    (upsert effect effects).Perm (effect :: remove effect.type effects) := by
  induction effects with
  | nil => simp [upsert, remove]
  | cons first rest ih =>
    unfold upsert
    split
    · rename_i here
      simp [remove, here]
    · rename_i differs
      have kept : remove effect.type (first :: rest) = first :: remove effect.type rest := by
        simp [remove, differs]
      rw [kept]
      exact (ih.cons first).trans (.swap effect first _)

/-- Without its type, nothing tells that an effect was put in place. -/
theorem remove_upsert {effect : StatusEffect} {name : String} (typed : effect.type = .text name)
    (effects : List StatusEffect) :
    remove (.text name) (upsert effect effects) = remove (.text name) effects := by
  have own : effect.hasType (.text name) = true := hasType_text_iff.mpr typed
  induction effects with
  | nil => simp [upsert, remove, own]
  | cons first rest ih =>
    unfold upsert
    rw [typed]
    split
    · rename_i here
      simp [remove, own, here]
    · simp only [remove, List.filter_cons] at ih ⊢
      rw [ih]

theorem tickAll_cons {effect : StatusEffect} {effects lasting : List StatusEffect}
    (ok : tickAll ((effect :: effects).map .known) = .ok lasting) :
    ∃ left others, tick effect = .ok left ∧ tickAll (effects.map .known) = .ok others ∧
      lasting = left.toList ++ others := by
  obtain ⟨kept, all, rest⟩ := bind_eq_ok.mp ok
  obtain rfl := pure_eq_ok.mp rest
  rw [List.map_cons, List.mapM_cons] at all
  obtain ⟨left, ticked, rest⟩ := bind_eq_ok.mp all
  obtain ⟨others, others_ok, rest⟩ := bind_eq_ok.mp rest
  obtain rfl := pure_eq_ok.mp rest
  refine ⟨left, others.filterMap id, ticked, ?_, ?_⟩
  · unfold tickAll
    rw [others_ok]
    rfl
  · cases left <;> rfl

/-- Nothing but the duration changes. -/
theorem tick_eq {effect left : StatusEffect} (ok : tick effect = .ok (some left)) :
    left = { effect with duration := left.duration } := by
  unfold tick at ok
  split at ok
  · cases ok
    rfl
  · split at ok <;> cases ok
    rfl
  · dsimp only at ok
    split at ok <;> cases ok
    rfl
  · cases ok

/-- The effects that a turn leaves, each from one that was there. -/
theorem mem_tickAll {effects lasting : List StatusEffect} {left : StatusEffect}
    (ok : tickAll (effects.map .known) = .ok lasting) (member : left ∈ lasting) :
    ∃ effect ∈ effects, tick effect = .ok (some left) := by
  induction effects generalizing lasting with
  | nil =>
    cases ok
    cases member
  | cons effect effects ih =>
    obtain ⟨first, others, ticked, rest, rfl⟩ := tickAll_cons ok
    rcases List.mem_append.mp member with here | there
    · exact ⟨effect, .head _, by rw [ticked, Option.mem_toList.mp here]⟩
    · obtain ⟨source, inside, lasts⟩ := ih rest there
      exact ⟨source, .tail _ inside, lasts⟩

theorem tickAll_types {effects lasting : List StatusEffect}
    (ok : tickAll (effects.map .known) = .ok lasting) :
    (lasting.map (·.type)).Sublist (effects.map (·.type)) := by
  induction effects generalizing lasting with
  | nil =>
    cases ok
    exact .slnil
  | cons effect effects ih =>
    obtain ⟨first, others, ticked, rest, rfl⟩ := tickAll_cons ok
    cases first with
    | none => exact (ih rest).cons _
    | some left =>
      have sublist := (ih rest).cons_cons effect.type
      have typed := congrArg StatusEffect.type (tick_eq ticked)
      simpa [typed] using sublist

theorem tickAll_distinct {effects lasting : List StatusEffect}
    (ok : tickAll (effects.map .known) = .ok lasting) (distinct : Distinct effects) :
    Distinct lasting := (tickAll_types ok).nodup distinct

/-- Absent, or a whole number of turns that is at least `least`. -/
def Lasts (least : Int) (effect : StatusEffect) : Prop :=
  effect.duration = .null ∨ ∃ turns : Int, effect.duration = .int turns ∧ least ≤ turns

theorem Lasts.weaken {effect : StatusEffect} (lasts : effect.Lasts 1) : effect.Lasts 0 := by
  rcases lasts with permanent | ⟨turns, timed, bound⟩
  · exact .inl permanent
  · exact .inr ⟨turns, timed, by omega⟩

theorem lasts_of_check {effect : StatusEffect}
    (checked : (effect.duration.isNull || effect.duration.isCount) = true) : effect.Lasts 0 := by
  rw [Bool.or_eq_true] at checked
  unfold Lasts
  rcases checked with permanent | counted
  · cases held : effect.duration <;> simp_all [Value.isNull]
  · cases held : effect.duration <;> simp_all [Value.isCount, Value.int?]

theorem check_of_lasts {effect : StatusEffect} (lasts : effect.Lasts 0) :
    (effect.duration.isNull || effect.duration.isCount) = true := by
  rcases lasts with permanent | ⟨turns, timed, bound⟩
  · simp [permanent, Value.isNull]
  · simp [timed, Value.isCount, Value.int?, bound]

theorem tick_lasts {effect left : StatusEffect} (least : Int) (lasts : effect.Lasts least)
    (ok : tick effect = .ok (some left)) : left.Lasts 1 := by
  rcases lasts with permanent | ⟨turns, timed, _⟩
  · simp only [tick, permanent, Value.present?] at ok
    cases ok
    exact .inl permanent
  · simp only [tick, timed, Value.present?, Value.countable?, Value.number?] at ok
    split at ok
    · rename_i more
      cases ok
      exact .inr ⟨turns - 1, rfl, by omega⟩
    · cases ok

/-- A duration that can be counted down, or none. -/
def IsTimed (effect : StatusEffect) : Prop :=
  effect.duration = .null ∨ effect.duration.countable?.isSome = true

theorem Lasts.timed {effect : StatusEffect} {least : Int} (lasts : effect.Lasts least) :
    effect.IsTimed := by
  rcases lasts with permanent | ⟨turns, timed, _⟩
  · exact .inl permanent
  · exact .inr (by rw [timed]; rfl)

theorem tick_eq_ok {effect : StatusEffect} (timed : effect.IsTimed) :
    ∃ left, tick effect = .ok left := by
  unfold tick
  rcases timed with permanent | counted
  · rw [permanent]
    exact ⟨some effect, rfl⟩
  · obtain ⟨turns, counted⟩ := Option.isSome_iff_exists.mp counted
    rw [counted]
    cases effect.duration.present? <;> cases turns <;> exact ⟨_, rfl⟩

theorem tickAll_eq_ok {effects : List StatusEffect} (timed : ∀ effect ∈ effects, effect.IsTimed) :
    ∃ lasting, tickAll (effects.map .known) = .ok lasting := by
  have each : ∀ entry ∈ effects.map Loose.known,
      ∃ left, (do tick (← entry.get) : Except Fault (Option StatusEffect)) = .ok left := by
    intro entry member
    obtain ⟨effect, inside, rfl⟩ := List.mem_map.mp member
    exact tick_eq_ok (timed effect inside)
  obtain ⟨kept, ticked⟩ := mapM_ok each
  exact ⟨kept.filterMap id, bind_eq_ok.mpr ⟨kept, ticked, rfl⟩⟩

end Gamebook.StatusEffect
