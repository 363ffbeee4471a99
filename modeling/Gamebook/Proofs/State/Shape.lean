import Gamebook.Proofs.Outcome

/-!
Fields of a state that are what they should be.
-/
namespace Gamebook.Loose
variable {α : Type}

theorem map_known_injective : Function.Injective (List.map (Loose.known (α := α))) :=
  List.map_injective_iff.mpr fun _ _ same => Loose.known.inj same

theorem get_eq_ok {entry : Loose α} {value : α} : entry.get = .ok value ↔ entry = .known value := by
  cases entry <;> simp [get]

theorem mapM_get_known (list : List α) :
    (list.map Loose.known).mapM Loose.get = (.ok list : Except Fault (List α)) := by
  induction list with
  | nil => rfl
  | cons first rest ih => simp [ih, get, bind, Except.bind, pure, Except.pure]

@[simp] theorem entries_known (list : List α) :
    (Loose.known (list.map Loose.known)).entries = .ok list := mapM_get_known list

theorem known_of_mapM_get {items : List (Loose α)} {entries : List α}
    (each : items.mapM get = .ok entries) : items = entries.map .known := by
  have related := mapM_eq_ok.mp each
  clear each
  induction related with
  | nil => rfl
  | cons first _ ih => rw [List.map_cons, ← ih, get_eq_ok.mp first]

/-- Entries that are all made use of are what a list was gone through for. -/
theorem items_of_entries {list : Loose (List (Loose α))} {entries : List α}
    (read : list.entries = .ok entries) : list.items .other = .ok (entries.map .known) := by
  obtain ⟨items, gone, each⟩ := bind_eq_ok.mp read
  rw [gone, known_of_mapM_get each]

theorem copied_eq_ok {limit : Nat} {table copy : Loose Dict} (ok : table.copied limit = .ok copy) :
    copy = table ∧ table.depth ≤ limit := by
  unfold copied at ok
  split at ok
  · rename_i bound
    cases ok
    exact ⟨rfl, bound⟩
  · cases ok

end Gamebook.Loose
