import Gamebook.Table

/-!
What stands in a table after an entry was written or removed.
-/
namespace Gamebook.Assoc
variable {κ α : Type} [BEq κ]

theorem mem_insert {table : Assoc κ α} {key : κ} {entry : α} {pair : κ × α}
    (member : pair ∈ table.insert key entry) :
    pair.2 = entry ∨ pair ∈ table ∧ (pair.1 == key) = false := by
  unfold insert at member
  split at member
  · obtain ⟨old, inside, rfl⟩ := List.mem_map.mp member
    split
    · exact .inl rfl
    · rename_i differs
      exact .inr ⟨inside, by simpa using differs⟩
  · rename_i absent
    rcases List.mem_append.mp member with inside | last
    · refine .inr ⟨inside, ?_⟩
      have other := absent
      simp only [contains, List.any_eq_true, not_exists, not_and] at other
      simpa using other pair inside
    · exact .inl (by simp_all)

theorem key_of_mem_insert {table : Assoc κ α} {key : κ} {entry : α} {pair : κ × α}
    (member : pair ∈ table.insert key entry) : pair.1 = key ∨ ∃ old ∈ table, old.1 = pair.1 := by
  unfold insert at member
  split at member
  · obtain ⟨old, inside, rfl⟩ := List.mem_map.mp member
    refine .inr ⟨old, inside, ?_⟩
    split <;> rfl
  · rcases List.mem_append.mp member with inside | last
    · exact .inr ⟨pair, inside, rfl⟩
    · exact .inl (congrArg Prod.fst (List.mem_singleton.mp last))

theorem mem_erase {table : Assoc κ α} {key : κ} {pair : κ × α} :
    pair ∈ table.erase key ↔ pair ∈ table ∧ (pair.1 == key) = false := by
  simp [erase]

theorem mem_of_get? {table : Assoc κ α} {key : κ} {entry : α} (found : table.get? key = some entry) :
    ∃ pair ∈ table, (pair.1 == key) = true ∧ pair.2 = entry := by
  obtain ⟨pair, here, rfl⟩ := Option.map_eq_some_iff.mp found
  exact ⟨pair, List.mem_of_find?_eq_some here, by simpa using List.find?_some here, rfl⟩

private theorem find?_replaced (table : Assoc κ α) (key other : κ) (entry : α) :
    (table.map fun pair => if pair.1 == key then (pair.1, entry) else pair).find? (·.1 == other) =
      (table.find? (·.1 == other)).map fun pair => if pair.1 == key then (pair.1, entry) else pair := by
  rw [List.find?_map]
  congr 2
  funext pair
  by_cases here : (pair.1 == key) = true <;> simp [here]

theorem get?_insert_self {table : Assoc κ α} {key : κ} (entry : α) (same : (key == key) = true) :
    (table.insert key entry).get? key = some entry := by
  unfold insert get?
  split
  · rename_i present
    rw [find?_replaced]
    obtain ⟨old, inside, here⟩ := List.any_eq_true.mp present
    cases found : table.find? (·.1 == key) with
    | none => exact absurd here (List.find?_eq_none.mp found old inside)
    | some pair => simp [List.find?_some found]
  · rename_i absent
    have none : table.find? (·.1 == key) = none := by simpa [contains] using absent
    simp [List.find?_append, none, same]

theorem get?_insert_other {table : Assoc κ α} {key other : κ} (entry : α)
    (differs : ∀ found : κ, (found == key) = true → (found == other) = false)
    (new : (key == other) = false) : (table.insert key entry).get? other = table.get? other := by
  unfold insert get?
  split
  · rw [find?_replaced]
    cases found : table.find? (·.1 == other) with
    | none => rfl
    | some pair =>
      have under : (pair.1 == other) = true := by simpa using List.find?_some found
      have elsewhere : ¬(pair.1 == key) = true := fun here => by simp [differs _ here] at under
      simp [elsewhere]
  · simp [List.find?_append, new]

theorem keys_insert (table : Assoc κ α) (key : κ) (entry : α) : (table.insert key entry).map (·.1) =
    if table.contains key then table.map (·.1) else table.map (·.1) ++ [key] := by
  unfold insert
  split
  · rw [List.map_map]
    refine List.map_congr_left fun pair _ => ?_
    dsimp only [Function.comp_apply]
    split <;> rfl
  · rw [List.map_append]
    rfl

theorem nodup_keys_insert {table : Assoc κ α} {key : κ} (same : (key == key) = true)
    (distinct : (table.map (·.1)).Nodup) (entry : α) : ((table.insert key entry).map (·.1)).Nodup := by
  rw [keys_insert]
  split
  · exact distinct
  · rename_i new
    refine List.nodup_append.mpr ⟨distinct, by simp, ?_⟩
    intro found inside last alone clash
    obtain rfl : found = key := clash.trans (List.mem_singleton.mp alone)
    obtain ⟨pair, member, rfl⟩ := List.mem_map.mp inside
    exact new (List.any_eq_true.mpr ⟨pair, member, same⟩)

theorem get?_erase [LawfulBEq κ] (table : Assoc κ α) (key other : κ) :
    (table.erase key).get? other = if other == key then none else table.get? other := by
  rw [get?, get?, erase, List.find?_filter]
  by_cases same : (other == key) = true
  · obtain rfl := beq_iff_eq.mp same
    simp
  · rw [if_neg same]
    congr 2
    funext pair
    by_cases here : (pair.1 == other) = true
    · simp [beq_iff_eq.mp here, same]
    · simp [here]

theorem insert_new {table : Assoc κ α} {key : κ} (new : table.contains key = false) (entry : α) :
    table.insert key entry = table ++ [(key, entry)] := by
  rw [insert, if_neg (by simp [new])]

theorem update_new [LawfulBEq κ] {table other : Assoc κ α}
    (distinct : ((table ++ other).map (·.1)).Nodup) : table.update other = table ++ other := by
  induction other generalizing table with
  | nil => exact (List.append_nil table).symm
  | cons pair other ih =>
    have new : table.contains pair.1 = false := by
      rw [List.map_append, List.nodup_append] at distinct
      refine List.any_eq_false.mpr fun old inside same => ?_
      exact distinct.2.2 old.1 (List.mem_map_of_mem inside) pair.1 (.head _) (beq_iff_eq.mp same)
    have joined : table ++ [pair] ++ other = table ++ pair :: other := by simp
    rw [update, List.foldl_cons, insert_new new, ← update, ih (joined ▸ distinct), joined]

theorem ofPairs_eq [LawfulBEq κ] {pairs : List (κ × α)} (distinct : (pairs.map (·.1)).Nodup) :
    ofPairs pairs = pairs := update_new distinct

theorem isSome_get? (table : Assoc κ α) (key : κ) : (table.get? key).isSome = table.contains key := by
  rw [get?, Option.isSome_map, List.isSome_find?, contains]

theorem contains_iff_name {α : Type} {table : Table α} {name : String} :
    table.contains name = true ↔ name ∈ table.names := by
  simp [contains, Table.names, keys]

theorem get?_of_mem [LawfulBEq κ] {table : Assoc κ α} {entry : κ × α} (distinct : table.keys.Nodup)
    (member : entry ∈ table) : table.get? entry.1 = some entry.2 := by
  unfold get?
  induction table with
  | nil => cases member
  | cons first table ih =>
    obtain ⟨new, distinct⟩ := List.nodup_cons.mp distinct
    rcases List.mem_cons.mp member with rfl | later
    · simp
    · have differs : first.1 ≠ entry.1 := fun same =>
        new (List.mem_map.mpr ⟨entry, later, same.symm⟩)
      simpa [List.find?_cons, differs] using ih distinct later

end Gamebook.Assoc
