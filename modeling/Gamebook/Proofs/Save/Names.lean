import Gamebook.Proofs.Save.Store
import Mathlib.Data.List.Nodup

/-!
Saves told by the names of their files. Every file that a save can have is that of one save, so the
saves of a directory are counted by its files.
-/
namespace Gamebook

namespace SaveId

theorem isSuffixOf_fileName (id : SaveId) :
    extension.toList.isSuffixOf id.fileName.toList = true := by
  rw [List.isSuffixOf_iff_suffix, fileName, String.toList_append]
  exact List.suffix_append _ _

theorem ofFileName?_eq_some {name : String} {id : SaveId} :
    ofFileName? name = some id ↔ name = id.fileName := by
  unfold ofFileName?
  constructor
  · intro found
    split at found
    · rename_i named
      obtain ⟨front, whole⟩ := List.isSuffixOf_iff_suffix.mp named
      have length : name.length - extension.length = front.length := by
        rw [← String.length_toList, ← whole, List.length_append, String.length_toList]
        omega
      have text : String.ofList (name.toList.take (name.length - extension.length)) = id.text := by
        unfold ofText? at found
        split at found
        · cases found
          rfl
        · cases found
      rw [length, ← whole, List.take_left] at text
      apply String.toList_inj.mp
      rw [fileName, String.toList_append, ← text, String.toList_ofList, whole]
    · cases found
  · rintro rfl
    have length : id.fileName.length - extension.length = id.text.toList.length := by
      rw [fileName, String.length_append, String.length_toList]
      omega
    rw [if_pos (isSuffixOf_fileName id), length, fileName, String.toList_append, List.take_left,
      String.ofList_toList, ofText?, dif_pos id.valid]

end SaveId

namespace SaveStore
variable {store : SaveStore} {id : SaveId}

theorem ids_count (store : SaveStore) (id : SaveId) :
    store.ids.count id = store.entries.names.count id.fileName := by
  rw [ids, (List.mergeSort_perm _ _).count_eq, List.count_filterMap, List.count]
  refine List.countP_congr fun name _ => ?_
  rw [beq_iff_eq, beq_iff_eq, SaveId.ofFileName?_eq_some]

theorem mem_ids : id ∈ store.ids ↔ ∃ entry, store.held id = some entry := by
  rw [ids, List.mem_mergeSort, List.mem_filterMap]
  simp only [SaveId.ofFileName?_eq_some, exists_eq_right]
  rw [← Assoc.contains_iff_name, ← Assoc.isSome_get?, Option.isSome_iff_exists]
  rfl

theorem ids_ascending (store : SaveStore) :
    store.ids.Pairwise fun a b => a.text ≤ b.text := by
  have le_iff (a b : SaveId) : (!decide (b.text < a.text)) = true ↔ a.text ≤ b.text := by
    rw [Bool.not_eq_true', decide_eq_false_iff_not, String.not_lt]
  refine (List.pairwise_mergeSort ?transitive ?total _).imp (le_iff _ _).mp
  case transitive =>
    intro a b c first second
    exact (le_iff a c).mpr (String.le_trans ((le_iff a b).mp first) ((le_iff b c).mp second))
  case total =>
    intro a b
    rw [Bool.or_eq_true, le_iff, le_iff]
    exact String.le_total a.text b.text

theorem ids_increasing (distinct : store.entries.names.Nodup) :
    store.ids.Pairwise fun a b => a.text < b.text := by
  have once : store.ids.Nodup := by
    rw [List.nodup_iff_count_le_one] at distinct ⊢
    intro id
    rw [ids_count]
    exact distinct id.fileName
  refine (store.ids_ascending.and once).imp ?_
  rintro ⟨a, _⟩ ⟨b, _⟩ ⟨upTo, differs⟩
  by_contra notBelow
  obtain rfl : a = b := String.le_antisymm upTo (String.not_lt.mp notBelow)
  exact differs rfl

end SaveStore
end Gamebook
