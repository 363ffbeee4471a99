import Gamebook.Value.Basic

/-!
What depends on where a program runs. How deep data may be nested before the stack is exhausted is
counted in lists and objects inside one another, and is less the deeper the calls are that have used
the stack already. The length of a name is that of its bytes.
-/
namespace Gamebook

/-- What tells a draft from others beside it, and what stands in one that is given up. -/
structure Host.Draft where
  letters : List Char
  content : String
  eight : letters.length = 8
  drawn : ∀ c ∈ letters, 'a' ≤ c ∧ c ≤ 'z' ∨ '0' ≤ c ∧ c ≤ '9' ∨ c = '_'

class Host where
  /-- The nesting of text that can be read. -/
  reading : Nat
  /-- The nesting of flags that a snapshot can take and give. -/
  copying : Nat
  /-- The nesting of flags with which a state can be copied. -/
  cloning : Nat
  /-- Copying uses the stack up faster than reading. -/
  copying_reading : copying + 3 ≤ reading
  /-- The longest name that a directory takes. -/
  naming : Nat
  /-- The longest name that a path to the saves leaves room for. -/
  room : Nat
  /-- The longest name of a draft. -/
  drafting : Nat
  drafting_naming : drafting ≤ naming
  drafting_room : drafting ≤ room
  /-- The draft of a document that is written to a save, by the names that are taken. -/
  draft : List String → String → Value → Host.Draft

namespace Host

def draftName (save : String) (letters : List Char) : String :=
  "." ++ save ++ "." ++ String.ofList letters ++ ".tmp"

def digits (n : Nat) : List Char :=
  (List.range 8).map fun place => Nat.digitChar (n / 10 ^ place % 10)

theorem drawn_digits (n : Nat) :
    ∀ c ∈ digits n, 'a' ≤ c ∧ c ≤ 'z' ∨ '0' ≤ c ∧ c ≤ '9' ∨ c = '_' := by
  have drawn : ∀ digit < 10, '0' ≤ Nat.digitChar digit ∧ Nat.digitChar digit ≤ '9' := by decide
  intro c inside
  obtain ⟨place, _, rfl⟩ := List.mem_map.mp inside
  exact .inr (.inl (drawn _ (Nat.mod_lt _ (by decide))))

/-- A host with the usual limits, whose drafts are numbered. -/
scoped instance : Host where
  reading := 950
  copying := 490
  cloning := 490
  copying_reading := by decide
  naming := 255
  room := 4000
  drafting := 255
  drafting_naming := by decide
  drafting_room := by decide
  draft names save _ :=
    let isFree n := !names.contains (draftName save (digits n))
    let number := ((List.range (names.length + 1)).find? isFree).getD 0
    ⟨digits number, "", by simp [digits], drawn_digits number⟩

end Host
end Gamebook
