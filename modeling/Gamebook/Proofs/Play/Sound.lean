import Gamebook.Proofs.Play.Lawful
import Gamebook.Proofs.State.Restoring

/-!
A state as documents hold it stays one while it is played on, but for the sizes of its numbers.
-/
namespace Gamebook

theorem Dict.Rewritten.reaches {name : String} {least floor : Int} {table next : Dict}
    (rewritten : table.Rewritten name (Value.IsWhole floor) next) (low : least ≤ floor)
    (old : ∀ entry ∈ table, entry.1.text?.isSome = true ∧ entry.2.Reaches least) :
    ∀ entry ∈ next, entry.1.text?.isSome = true ∧ entry.2.Reaches least := by
  have keys : ∀ entry ∈ next, entry.1.text?.isSome = true :=
    rewritten.keys (·.text?.isSome = true) (fun entry inside => (old entry inside).1) rfl
  have values : ∀ entry ∈ next, entry.2.Reaches least := by
    refine rewritten.values (·.Reaches least) (fun entry inside => (old entry inside).2) ?_
    rintro _ ⟨whole, rfl, bound⟩
    exact Value.reaches_int (Int.le_trans low bound)
  exact fun entry member => ⟨keys entry member, values entry member⟩

namespace Effect
variable {effect : EffectDef} {contents after : GameState.Contents}

theorem statusOf_sound {status : StatusEffect} (made : statusOf effect = .ok status) :
    status.Sound := by
  have lasts := (statusOf_lasts made).2
  obtain ⟨amount, measured, rest⟩ := bind_eq_ok.mp made
  obtain ⟨duration, _, rest⟩ := bind_eq_ok.mp rest
  obtain ⟨source, kept, rest⟩ := bind_eq_ok.mp rest
  obtain rfl := pure_eq_ok.mp rest
  refine ⟨rfl, ⟨amount, rfl, amountOf_settled measured⟩, lasts, ?_⟩
  unfold sourceOf at kept
  split at kept
  · cases kept
    rfl
  · split at kept <;> cases kept
    rfl

theorem Alters.sound (alters : Alters effect contents after) (sound : contents.Sound) :
    after.Sound := by
  cases alters with
  | intro wallets inventory stats flags effects balances quantities scores marks statuses =>
    exact { sound with
      stats := scores.reaches (Int.le_refl _) sound.stats
      wallets := balances.reaches (Int.le_refl _) sound.wallets
      inventory := quantities.reaches (by decide) sound.inventory
      flags := marks.keys (·.text?.isSome = true) sound.flags rfl
      effects := statuses.members (·.Sound) sound.effects fun _ made => statusOf_sound made }

theorem Altered.sound {effects : List EffectDef} (batch : Altered contents effects after)
    (sound : contents.Sound) : after.Sound :=
  batch.keep (·.Sound) (fun _ _ _ _ sound alters => alters.sound sound) sound

end Effect

theorem StatusEffect.tick_sound {effect left : StatusEffect} (sound : effect.Sound)
    (ok : tick effect = .ok (some left)) : left.Sound := by
  have lasts := (tick_lasts 0 sound.duration ok).weaken
  rw [tick_eq ok] at lasts ⊢
  exact { sound with duration := lasts }

theorem withVisit_texts {visits : List Value} (name : String)
    (texts : ∀ visit ∈ visits, visit.text?.isSome = true) :
    (∀ visit ∈ withVisit visits (.text name), visit.text?.isSome = true) ∧
      .text name ∈ withVisit visits (.text name) := by
  unfold withVisit
  split
  · rename_i among
    exact ⟨texts, Value.text_isAmong_iff.mp among⟩
  · refine ⟨fun visit member => ?_, by simp⟩
    rcases List.mem_append.mp member with old | new
    · exact texts visit old
    · rw [List.mem_singleton.mp new]
      rfl

theorem Navigator.Moves.sound {navigator : Navigator} {now : Timestamp}
    {contents next : GameState.Contents} (moves : navigator.Moves now contents next)
    (sound : contents.Sound) : next.Sound := by
  cases moves with
  | intro node target place choice applied altered lasting here chosen leads alters offered ticked =>
    have kept := alters.sound sound
    obtain ⟨texts, inside⟩ := withVisit_texts target.id sound.visits
    refine { kept with visits := texts, visited := inside, history := ?_, effects := ?_ }
    · intro record member
      rcases List.mem_append.mp member with old | new
      · exact sound.history record old
      · obtain rfl := List.mem_singleton.mp new
        exact ⟨rfl, rfl, rfl, now, rfl⟩
    · intro effect member
      obtain ⟨source, inside, lasts⟩ := StatusEffect.mem_tickAll ticked member
      exact StatusEffect.tick_sound (kept.effects source inside) lasts

end Gamebook
