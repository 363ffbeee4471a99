import Gamebook.Proofs.State.Restoring

/-!
What restoring takes over unchecked. Quantities are only known not to be below zero, and lists keep
what the document repeats, so the stricter rules of play hold of a restored state exactly if they hold
of the lists and the table in the document.
-/
namespace Gamebook

/-- A number above zero. -/
def Value.IsPositive (value : Value) : Prop :=
  ∃ number : Number, value = number.toValue ∧ (Number.int 0).lt number = true

/-- The rules of what is carried, where the player was, and what the player suffers from. -/
structure GameState.Contents.Tidy (contents : GameState.Contents) : Prop where
  carried : ∀ entry ∈ contents.inventory, entry.2.IsPositive
  once : contents.visits.Nodup
  visited : .text contents.node ∈ contents.visits
  types : StatusEffect.Distinct contents.effects

namespace Snapshot

/-- The items of the list in a field; null counts as empty. -/
def itemsOf (fields : Table Value) (name : String) : List Value :=
  (Value.field fields name).items?.getD []

/-- The entries of the object in a field; null counts as empty. -/
def entriesOf (fields : Table Value) (name : String) : Table Value :=
  (Value.field fields name).fields?.getD []

def typeOf (item : Value) : Value := Value.field (item.fields?.getD []) "type"

/-- A document that breaks none of the rules by itself. -/
structure IsTidy (fields : Table Value) : Prop where
  carried : ∀ entry ∈ entriesOf fields "inventory", entry.2.IsPositive
  once : (itemsOf fields "visitedNodes").Nodup
  types : ((itemsOf fields "statusEffects").map typeOf).Nodup

variable {fields : Table Value} {contents : GameState.Contents}

theorem mem_ofTable {table : Table Value} {good : Value → Prop} :
    (∀ entry ∈ Dict.ofTable table, good entry.2) ↔ ∀ entry ∈ table, good entry.2 :=
  List.forall_mem_map

theorem Reads.types_eq [Host] (reads : Reads fields contents.state) :
    contents.effects.map (·.type) = (itemsOf fields "statusEffects").map typeOf := by
  obtain ⟨effects, known, items⟩ := readEntries_items reads.effects
  have types : List.Forall₂ (fun item effect => typeOf item = effect.type)
      (itemsOf fields "statusEffects") effects :=
    items.imp fun _ _ ⟨_, read⟩ => (readEffect_eq_ok.mp read).type
  have same := List.forall₂_map_left_iff.mpr (List.forall₂_map_right_iff.mpr types)
  rw [List.forall₂_eq_eq_eq] at same
  rw [same]
  obtain rfl := Loose.map_known_injective (Loose.known.inj known)
  rfl

theorem Reads.tidy_iff [Host] (valid : contents.Valid) (reads : Reads fields contents.state) :
    contents.Tidy ↔ IsTidy fields := by
  have carried : (∀ entry ∈ contents.inventory, entry.2.IsPositive) ↔
      ∀ entry ∈ entriesOf fields "inventory", entry.2.IsPositive := by
    rw [Loose.known.inj (readTable_fields reads.inventory)]
    exact mem_ofTable
  have once : contents.visits.Nodup ↔ (itemsOf fields "visitedNodes").Nodup := by
    rw [Loose.known.inj (readVisited_items reads.visits)]
    rfl
  have types : StatusEffect.Distinct contents.effects ↔
      ((itemsOf fields "statusEffects").map typeOf).Nodup := by
    rw [StatusEffect.Distinct, reads.types_eq]
  constructor
  · intro tidy
    exact ⟨carried.mp tidy.carried, once.mp tidy.once, types.mp tidy.types⟩
  · intro tidy
    exact ⟨carried.mpr tidy.carried, once.mpr tidy.once, valid.visited, types.mpr tidy.types⟩

/-- What holds of every restored state, and what only its document can make hold. -/
theorem restore_takes_over [Host] {document : Value} {state : GameState}
    (ok : restore document = .ok state) :
    ∃ fields contents, document = .object fields ∧ state = GameState.Contents.state contents ∧
      (∀ entry ∈ contents.inventory, entry.2.Reaches 0) ∧ .text contents.node ∈ contents.visits ∧
      contents.inventory = Dict.ofTable (entriesOf fields "inventory") ∧
      contents.visits = itemsOf fields "visitedNodes" ∧
      contents.effects.map (·.type) = (itemsOf fields "statusEffects").map typeOf ∧
      (contents.Tidy ↔ IsTidy fields) := by
  obtain ⟨fields, rfl⟩ := object_of_restore ok
  obtain ⟨contents, rfl, valid, reads⟩ := restore_object_eq_ok.mp ok
  have sound := reads.sound valid
  exact ⟨fields, contents, rfl, rfl, fun entry member => (sound.inventory entry member).2,
    valid.visited, Loose.known.inj (readTable_fields reads.inventory),
    Loose.known.inj (readVisited_items reads.visits), reads.types_eq, reads.tidy_iff valid⟩

/-- The save of a player who carries no rope, was at the pier twice and is ill twice. -/
def untidyDocument : Table Value := [
  ("playerId", .text "sailor"), ("storyId", .text "harbour"), ("saveId", .text "first"),
  ("currentNodeId", .text "pier"), ("visitedNodes", .list [.text "pier", .text "pier"]),
  ("inventory", .object [("rope", .int 0)]),
  ("statusEffects", .list [.object [("type", .text "ill"), ("value", .int 1)],
    .object [("type", .text "ill"), ("value", .int 2)]]),
  ("createdAt", .text "2024-05-01T08:00:00Z"), ("updatedAt", .text "2024-05-01T08:00:00Z")]

open scoped Host in
theorem restore_takes_over_untidy : ∃ state, restore (.object untidyDocument) = .ok state ∧
    ∃ fields contents, state = GameState.Contents.state contents ∧
      (∀ entry ∈ contents.inventory, entry.2.Reaches 0) ∧ (contents.Tidy ↔ IsTidy fields) := by
  obtain ⟨state, ok⟩ :=
    ok_of_isOk (show (restore (.object untidyDocument)).isOk = true by decide +kernel)
  obtain ⟨fields, contents, _, same, least, _, _, _, _, tidy⟩ := restore_takes_over ok
  exact ⟨state, ok, fields, contents, same, least, tidy⟩

open scoped Host in
/-- Each of the rules can be broken by a restored state. -/
theorem restored_untidy : ∃ contents : GameState.Contents,
    restore (.object untidyDocument) = .ok contents.state ∧
      (¬ ∀ entry ∈ contents.inventory, entry.2.IsPositive) ∧ ¬ contents.visits.Nodup ∧
      ¬ StatusEffect.Distinct contents.effects := by
  obtain ⟨state, ok⟩ :=
    ok_of_isOk (show (restore (.object untidyDocument)).isOk = true by decide +kernel)
  obtain ⟨contents, rfl, valid, reads⟩ := restore_object_eq_ok.mp ok
  refine ⟨contents, ok, ?_, ?_, ?_⟩
  · rw [Loose.known.inj (readTable_fields reads.inventory)]
    intro carried
    obtain ⟨number, same, positive⟩ := carried (.text "rope", .int 0) (.head _)
    obtain rfl : number = .int 0 := by cases number <;> cases same; rfl
    exact absurd positive (by decide)
  · rw [Loose.known.inj (readVisited_items reads.visits)]
    exact fun once => (List.nodup_cons.mp once).1 (.head _)
  · rw [StatusEffect.Distinct, reads.types_eq]
    exact fun once => (List.nodup_cons.mp once).1 (.head _)

end Snapshot
end Gamebook
