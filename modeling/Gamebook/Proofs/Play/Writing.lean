import Gamebook.Proofs.Play.Keeping
import Gamebook.Proofs.Play.Untouched
import Gamebook.Proofs.Save.Holding

/-!
Where calls that succeed write. A new game is written under the save that was asked for. A choice is
written under the save that the loaded game names, which is another one if a save was copied or
renamed; the save that was asked for is then left as it was.
-/
namespace Gamebook

/-- The one save that differs between two stores, and what it holds afterwards. -/
structure SaveStore.Writes [Host] (before after : SaveStore) (id : SaveId) (text : String) :
    Prop where
  written : after.held id = some (.text text)
  others : ∀ other, other ≠ id →
    after.held other = before.held other ∧ after.read other = before.read other

theorem SaveStore.writes_put [Host] {store : SaveStore} {id : SaveId} {text : String}
    (made : store.directory?.isSome = true) :
    store.Writes (store.put id.fileName (.text text)) id text := by
  refine ⟨held_put, fun other differs => ?_⟩
  have same : (store.put id.fileName (.text text)).held other = store.held other :=
    held_put_other fun named => differs (SaveId.fileName_injective named)
  exact ⟨same, read_of_held rfl made same⟩

namespace GameMaster
variable {σ : Type} {master : GameMaster σ} {now : Timestamp} {save index : Value}
  {world after : World σ}

theorem choose_eq_ok [Host] {transition : Transition} {view : GameView}
    (ok : master.choose now save index world = .ok (transition, view) after) :
    master.advance now save index world = .ok transition after ∧
      master.view transition.state = .ok view := by
  rw [choose_eq] at ok
  obtain ⟨taken, between, advanced, rest⟩ := draw_bind_eq_ok.mp ok
  obtain ⟨shown, found, rest⟩ := Playing.outcome_bind_eq_ok.mp rest
  obtain ⟨same, rfl⟩ := draw_pure_eq_ok.mp rest
  obtain ⟨rfl, rfl⟩ := Prod.mk.inj same
  exact ⟨advanced, found⟩

/-- A choice writes the game that it leads to under the save that the game names. This is the save
that was asked for, and the only one that changes, exactly if the two are one or hold the same text
beforehand. -/
theorem choose_writes [Host] {transition : Transition} {view : GameView}
    (ok : master.choose now save index world = .ok (transition, view) after) :
    ∃ id state own document, SaveId.ofValue save = .ok id ∧ world.saves.load id = .ok state ∧
      SaveId.ofValue state.saveId = .ok own ∧ transition.state.saveId = state.saveId ∧
      Snapshot.ofState transition.state = .ok document ∧
      let text := Json.write .file (.object document)
      world.saves.Writes after.saves own text ∧
        (after.saves.held id = some (.text text) ↔
          own = id ∨ world.saves.held id = some (.text text)) ∧
        ((∀ other, other ≠ id → after.saves.held other = world.saves.held other) ↔
          own = id ∨ world.saves.held own = some (.text text)) := by
  obtain ⟨id, state, source, document, own, named, found, _, taken, documented, owned, _, _, _, put⟩ :=
    advance_eq_ok (choose_eq_ok ok).1
  have kept := taken.sameGame.save
  have writes : world.saves.Writes after.saves own (Json.write .file (.object document)) :=
    put ▸ SaveStore.writes_put (SaveStore.made_of_load found)
  refine ⟨id, state, own, document, named, found, kept ▸ owned, kept, documented, writes, ?asked,
    ?others⟩
  case asked =>
    by_cases same : own = id
    · exact ⟨fun _ => .inl same, fun _ => same ▸ writes.written⟩
    · rw [(writes.others id (Ne.symm same)).1]
      exact ⟨.inr, fun either => either.resolve_left same⟩
  case others =>
    constructor
    · intro spared
      by_cases same : own = id
      · exact .inl same
      · exact .inr (spared own same ▸ writes.written)
    · rintro (rfl | already) other differs
      · exact (writes.others other differs).1
      · by_cases same : other = own
        · rw [same, writes.written, already]
        · exact (writes.others other same).1

/-- A copy of the first save of a game in the harbour. -/
def copiedSave : String :=
  " \x7b\"version\": 1, \"playerId\": \"sailor\", \"storyId\": \"harbour\", \"saveId\": \"first\"," ++
  " \"currentNodeId\": \"pier\", \"visitedNodes\": [\"pier\"]," ++
  " \"createdAt\": \"2024-05-01T08:00:00Z\", \"updatedAt\": \"2024-05-01T08:00:00Z\"\x7d"

def copiedWorld : World RandomSource := ⟨⟨some [("copy.json", .text copiedSave)]⟩, .fixed []⟩

def copyId : SaveId := ⟨"copy", by decide⟩

def firstId : SaveId := ⟨"first", by decide⟩

open scoped Host in
/-- A choice in the copy leaves it alone and writes the save that it was copied from. -/
theorem choose_writes_copied : ∃ transition view after text,
    harbourMaster.choose Story.Lighthouse.morning (.text "copy") (.int 0) copiedWorld =
      .ok (transition, view) after ∧
    copiedWorld.saves.held firstId = none ∧ copiedWorld.saves.Writes after.saves firstId text ∧
    after.saves.held copyId = copiedWorld.saves.held copyId := by
  obtain ⟨⟨transition, view⟩, after, ok, _⟩ :=
    ok_of_gives (show gives (fun _ => true)
      (harbourMaster.choose Story.Lighthouse.morning (.text "copy") (.int 0) copiedWorld) = true by
        decide +kernel)
  obtain ⟨id, state, own, document, asked, found, named, _, _, writes, _⟩ := choose_writes ok
  obtain rfl : copyId = id := Except.ok.inj asked
  have first : (copiedWorld.saves.load copyId >>= fun state => SaveId.ofValue state.saveId).toOption =
      some firstId := by decide +kernel
  rw [found] at first
  obtain rfl : own = firstId := Option.some.inj ((congrArg Except.toOption named).symm.trans first)
  exact ⟨transition, view, after, _, ok, rfl, writes, (writes.others copyId (by decide)).1⟩

end GameMaster
end Gamebook
