import Gamebook.Proofs.Value.Equality
import Gamebook.State.Merge
import Mathlib.Data.List.Induction

/-!
Names as they came first, each once: what does not come first makes no difference, whether it is left
out before or after other names are added.
-/
namespace Gamebook

theorem eraseDups_concat (names : List String) (name : String) : (names ++ [name]).eraseDups =
    if name ∈ names then names.eraseDups else names.eraseDups ++ [name] := by
  rw [List.eraseDups_append]
  split <;> rename_i inside <;> simp [List.removeAll, inside, List.eraseDups_cons]

theorem nodup_eraseDups (names : List String) : names.eraseDups.Nodup := by
  induction names using List.reverseRecOn with
  | nil => exact .nil
  | append_singleton names name ih =>
    rw [eraseDups_concat]
    split
    · exact ih
    · rename_i new
      rw [List.nodup_append]
      refine ⟨ih, by simp, ?_⟩
      rintro _ before _ here rfl
      rw [List.mem_singleton.mp here] at before
      exact new (List.mem_eraseDups.mp before)

theorem Value.distinct_texts (names : List String) :
    Value.distinct (names.map .text) = names.eraseDups.map .text := by
  induction names using List.reverseRecOn with
  | nil => rfl
  | append_singleton names name ih =>
    have among : (Value.text name).isAmong (names.eraseDups.map .text) = true ↔ name ∈ names := by
      simp [Value.text_isAmong_iff]
    rw [List.map_append, distinct, List.foldl_append, ← distinct, ih, eraseDups_concat]
    by_cases inside : name ∈ names
    · simp [among.mpr inside, inside]
    · have apart : (Value.text name).isAmong (names.eraseDups.map .text) = false :=
        eq_false_of_ne_true fun there => inside (among.mp there)
      simp [apart, inside]

end Gamebook
