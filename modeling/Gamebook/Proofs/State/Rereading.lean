import Gamebook.Proofs.State.Saving

/-!
What a restored state is written as is restored to that state again, whatever document it came from:
one with an older name for the player, without a version, with null for empty lists and tables, with
times in other forms, or without what is optional.
-/
namespace Gamebook

/-- An object in which no name stands twice, as in any object of a program. -/
def Value.IsMapping (value : Value) : Prop :=
  ∀ fields, value = .object fields → (fields.map (·.1)).Nodup

namespace Snapshot

def tableFields : List String := ["stats", "wallets", "inventory", "flags"]

/-- The tables of a document are objects as programs have them. -/
def HasMappings (document : Value) : Prop := ∀ fields, document.fields? = some fields →
  ∀ name ∈ tableFields, (Value.field fields name).IsMapping

theorem readText_again {field : String} {value result : Value}
    (ok : readText field value = .ok result) (other : String) :
    readText other result = .ok result := by
  obtain ⟨filled, rfl⟩ := readText_eq_ok.mp ok
  exact readText_eq_ok.mpr ⟨filled, rfl⟩

theorem readVisited_again {value : Value} {visits : List Value}
    (ok : readVisited value = .ok (.known visits)) :
    readVisited (.list visits) = .ok (.known visits) := by
  have texts : visits.all (·.text?.isSome) = true := List.all_eq_true.mpr (readVisited_texts ok)
  exact bind_eq_ok.mpr ⟨(), require_eq_ok.mpr texts, rfl⟩

theorem readTimestamp_again {field : String} {value : Value} {time : Timestamp}
    (ok : readTimestamp field value = .ok (.known time)) (other : String) :
    readTimestamp other (.text time.text) = .ok (.known time) := by
  obtain ⟨text, found, _, read, same⟩ := readTimestamp_eq_ok.mp ok
  obtain rfl := Loose.known.inj same
  exact readTimestamp_text (Timestamp.ofSaved?_aware read) other

theorem ReadsRecord.again {fields : Table Value} {record : ChoiceRecord}
    (reads : ReadsRecord fields record) : ReadsRecord (recordFields record) record := by
  obtain ⟨text, time, _, read, known⟩ := reads.time
  have written : Value.field (recordFields record) "timestamp" = .text time.text := by
    show Value.text (timeText record.timestamp) = .text time.text
    rw [known]
    rfl
  exact {
    node := rfl
    index := rfl
    text := rfl
    time := ⟨_, time, written, Timestamp.ofSaved?_text (Timestamp.ofSaved?_aware read), known⟩
    filled := reads.filled
    isIndex := reads.isIndex
    isText := reads.isText }

theorem ReadsEffect.again {fields : Table Value} {effect : StatusEffect}
    (reads : ReadsEffect fields effect) : ReadsEffect (effectFields effect) effect where
  type := rfl
  value := rfl
  duration := field_duration effect
  source := field_source effect
  filled := reads.filled
  finite := reads.finite
  lasts := reads.lasts
  stated := reads.stated

theorem readEntries_again {α : Type} {field : String} {read : String → Table Value → Outcome α}
    {write : α → Table Value} {value : Value} {list : List α}
    (each : ∀ place fields entry, read place fields = .ok entry →
      ∀ other, read other (write entry) = .ok entry)
    (ok : readEntries field read value = .ok (.known (list.map .known))) (other : String) :
    readEntries other read (.list (list.map fun entry => .object (write entry))) =
      .ok (.known (list.map .known)) := by
  have good : ∀ entry ∈ list, ∀ other, read other (write entry) = .ok entry :=
    readEntries_all each ok
  refine (readEntries_eq_ok (fun _ => True) (fun entry member place found => ?_) other).mpr
    ⟨fun _ _ => trivial, rfl⟩
  rw [good entry member place]
  simp [eq_comm]

theorem readTable_distinct {field : String} {value : Value} {table : Dict} (mapping : value.IsMapping)
    (ok : readTable field value = .ok (.known table)) : (table.map (·.1)).Nodup := by
  unfold readTable at ok
  split at ok
  · cases ok
    exact List.nodup_nil
  · rename_i entries
    cases ok
    have keys : (Dict.ofTable entries).map (·.1) = (entries.map (·.1)).map Value.text := by
      simp [Dict.ofTable]
    rw [keys]
    exact (mapping entries rfl).map fun _ _ => Value.text.inj
  · cases ok

theorem readTable_again {field : String} {value : Value} {table : Dict} (mapping : value.IsMapping)
    (ok : readTable field value = .ok (.known table)) (other : String) :
    readTable other (.object table.named) = .ok (.known table) := by
  rw [readTable, Dict.ofTable_named (readTable_names ok) (readTable_distinct mapping ok)]

theorem readFlags_again [Host] {field : String} {value : Value} {table : Dict}
    (mapping : value.IsMapping) (ok : readFlags field value = .ok (.known table)) (other : String) :
    readFlags other (.object table.named) = .ok (.known table) := by
  obtain ⟨read, deep⟩ := readFlags_eq_ok ok
  exact bind_eq_ok.mpr ⟨_, readTable_again mapping read other, Fault.lift_eq_ok.mpr (if_pos deep)⟩

theorem readSeed_again {value : Value} {contents : GameState.Contents}
    (ok : readOptionalText "seed" value = .ok contents.seed) :
    readOptionalText "seed" (Value.field contents.document "seed") = .ok contents.seed := by
  obtain ⟨optional, same⟩ := readOptionalText_eq_ok.mp ok
  rw [GameState.Contents.field_seed]
  exact readOptionalText_eq_ok.mpr ⟨same ▸ optional, rfl⟩

theorem Reads.again [Host] {fields : Table Value} {contents : GameState.Contents}
    (mappings : HasMappings (.object fields)) (reads : Reads fields contents.state) :
    Reads contents.document contents.state where
  version := version_current
  player := readText_again reads.player _
  story := readText_again reads.story _
  save := readText_again reads.save _
  node := readText_again reads.node _
  visits := readVisited_again reads.visits
  history := readEntries_again (fun _ _ _ read _ =>
    readRecord_eq_ok.mpr (readRecord_eq_ok.mp read).again) reads.history _
  stats := readTable_again (mappings fields rfl _ (by decide)) reads.stats _
  wallets := readTable_again (mappings fields rfl _ (by decide)) reads.wallets _
  inventory := readTable_again (mappings fields rfl _ (by decide)) reads.inventory _
  flags := readFlags_again (mappings fields rfl _ (by decide)) reads.flags _
  effects := readEntries_again (fun _ _ _ read _ =>
    readEffect_eq_ok.mpr (readEffect_eq_ok.mp read).again) reads.effects _
  created := readTimestamp_again reads.created _
  updated := readTimestamp_again reads.updated _
  seed := readSeed_again reads.seed

/-- A restored state is the one that its own document restores. -/
theorem restore_again [Host] {document : Value} {state : GameState} (mappings : HasMappings document)
    (ok : restore document = .ok state) :
    ∃ fields, ofState state = .ok fields ∧ restore (.object fields) = .ok state := by
  obtain ⟨fields, rfl⟩ := object_of_restore ok
  obtain ⟨contents, rfl, valid, reads⟩ := restore_object_eq_ok.mp ok
  have sound := reads.sound valid
  have deep := (readFlags_eq_ok reads.flags).2
  refine ⟨contents.document, ?written, ?restored⟩
  case written =>
    exact (GameState.Contents.ofState_eq_ok fun record member => (sound.history record member).time).mpr
      ⟨deep, rfl⟩
  case restored =>
    exact restore_object_eq_ok.mpr ⟨contents, rfl, valid, reads.again mappings⟩

/-- A document of an older kind, with times by other clocks. -/
def oldDocument : Value := .object [
  ("userId", .text "keeper"), ("storyId", .text "lighthouse"), ("saveId", .text "first"),
  ("currentNodeId", .text "stairs"), ("visitedNodes", .list [.text "door", .text "stairs"]),
  ("choicesHistory", .list [.object [("nodeId", .text "door"), ("choiceIndex", .int 1),
    ("timestamp", .text " 20240501T083000,5-0330 ")]]),
  ("stats", .object [("luck", .int 3)]), ("wallets", .null),
  ("flags", .object [("tide", .real (.nan (some 1)))]),
  ("statusEffects", .list [.object [("type", .text "wet")]]),
  ("createdAt", .text "2024-05-01T08:00:00Z"), ("updatedAt", .text "2024-W18-3")]

open scoped Host in
theorem restore_again_oldDocument : HasMappings oldDocument ∧
    ∃ state, restore oldDocument = .ok state ∧
      ∃ fields, ofState state = .ok fields ∧ restore (.object fields) = .ok state := by
  have mappings : HasMappings oldDocument := by
    rintro _ ⟨⟩ name member entries same
    simp only [tableFields, List.mem_cons, List.not_mem_nil, or_false] at member
    rcases member with rfl | rfl | rfl | rfl <;> cases same <;> exact List.nodup_singleton _
  obtain ⟨state, ok⟩ := ok_of_isOk (show (restore oldDocument).isOk = true by decide +kernel)
  exact ⟨mappings, state, ok, restore_again mappings ok⟩

end Snapshot
end Gamebook
