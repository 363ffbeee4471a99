import Gamebook.Proofs.State.Storable
import Gamebook.Proofs.Table
import Mathlib.Data.List.Nodup

/-!
A storable state is read back from the document that a file keeps of it, with its tables sorted,
exactly if all its whole numbers are within the range of doubles.
-/
namespace Gamebook

/-- The fields of a document in ascending order, with sorted entries. -/
def Table.sorted (fields : Table Value) : Table Value :=
  (Value.sortedFields fields).mergeSort fun a b => !Text.before b.1 a.1

namespace Value

theorem text?_isSome {value : Value} : value.text?.isSome = true ↔ ∃ name, value = .text name := by
  cases value <;> simp [text?]

theorem int?_isSome {value : Value} : value.int?.isSome = true ↔ ∃ number, value = .int number := by
  cases value <;> simp [int?]

theorem sorted_object (fields : Table Value) : (object fields).sorted = .object (Table.sorted fields) :=
  rfl

theorem ofTable_sorted (fields : Table Value) :
    Dict.ofTable (Table.sorted fields) = (Dict.ofTable fields).sorted := by
  have same := entries?_sorted (.object fields)
  exact Option.some.inj same

theorem field_sorted (fields : Table Value) (name : String) :
    field (Table.sorted fields) name = (field fields name).sorted := by
  rw [field, field, Table.sorted, Table.get?_sorted]
  cases Assoc.get? fields name <;> rfl

theorem entriesDepth_ofTable (fields : Table Value) :
    entriesDepth (Dict.ofTable fields) = fieldsDepth fields := by
  induction fields with
  | nil => rfl
  | cons field fields ih =>
    obtain ⟨name, entry⟩ := field
    rw [fieldsDepth, ← ih]
    rfl

end Value

namespace Dict

theorem mem_sorted {dict : Dict} {entry : Value × Value} :
    entry ∈ dict.sorted ↔ ∃ old ∈ dict, (old.1, old.2.sorted) = entry := by
  rw [Dict.sorted, List.mem_mergeSort, List.mem_map]

theorem Plain.sorted {dict : Dict} (plain : dict.Plain) : dict.sorted.Plain := by
  refine ⟨?_, fun entry member => ?_, fun entry member => ?_⟩
  · rw [Dict.sorted, ((List.mergeSort_perm _ _).map _).nodup_iff, List.map_map]
    exact plain.distinct
  · obtain ⟨old, inside, rfl⟩ := mem_sorted.mp member
    exact plain.keys old inside
  · obtain ⟨old, inside, rfl⟩ := mem_sorted.mp member
    exact (Value.plain_sorted old.2 (plain.entries old inside)).1

variable {dict : Dict} (texts : ∀ entry ∈ dict, entry.1.text?.isSome = true)
include texts

section
variable (distinct : (dict.map (·.1)).Nodup)
include distinct

theorem names_distinct :
    ((dict.map fun entry => (entry.1.keyName, entry.2)).map (·.1)).Nodup := by
  have names : (dict.map fun entry => (entry.1.keyName, entry.2)).map (·.1) =
      (dict.map (·.1)).map Value.keyName := by simp
  rw [names]
  refine List.Nodup.map_on (fun a here b there same => ?_) distinct
  obtain ⟨first, inside, rfl⟩ := List.mem_map.mp here
  obtain ⟨second, within, rfl⟩ := List.mem_map.mp there
  obtain ⟨name, nameIs⟩ := Value.text?_isSome.mp (texts first inside)
  obtain ⟨other, otherIs⟩ := Value.text?_isSome.mp (texts second within)
  rw [nameIs, otherIs] at same ⊢
  exact congrArg Value.text same

theorem named_eq : dict.named = dict.map fun entry => (entry.1.keyName, entry.2) :=
  Assoc.ofPairs_eq (names_distinct texts distinct)

theorem ofTable_named : Dict.ofTable dict.named = dict := by
  rw [named_eq texts distinct, Dict.ofTable, List.map_map]
  refine (List.map_congr_left fun entry member => ?_).trans (List.map_id dict)
  obtain ⟨name, nameIs⟩ := Value.text?_isSome.mp (texts entry member)
  exact Prod.ext (by simp [nameIs, Value.keyName]) rfl

end

variable (plain : dict.Plain)
include plain

theorem isPlain_named : (Value.object dict.named).isPlain = true := by
  rw [named_eq texts plain.distinct, Value.isPlain, Bool.and_eq_true, decide_eq_true_eq]
  refine ⟨?_, names_distinct texts plain.distinct⟩
  rw [Value.fieldsPlain_eq_all, List.all_map, List.all_eq_true]
  intro entry member
  obtain ⟨name, nameIs⟩ := Value.text?_isSome.mp (texts entry member)
  have key := plain.keys entry member
  rw [nameIs, Value.isPlain] at key
  simp [nameIs, Value.keyName, key, plain.entries entry member]

theorem readTable_named (field : String) :
    Snapshot.readTable field (Value.object dict.named).sorted = .ok (.known dict.sorted) := by
  rw [Value.sorted_object, Snapshot.readTable, Value.ofTable_sorted,
    ofTable_named texts plain.distinct]

theorem entriesDepth_sorted : Value.entriesDepth dict.sorted = Value.entriesDepth dict := by
  have depth := (Value.plain_sorted _ (isPlain_named texts plain)).2.2
  rw [Value.sorted_object, Value.depth, Value.depth, Nat.add_right_cancel_iff,
    ← Value.entriesDepth_ofTable, ← Value.entriesDepth_ofTable, Value.ofTable_sorted,
    ofTable_named texts plain.distinct] at depth
  exact depth

end Dict

namespace Snapshot

theorem isPlain_time (time : Timestamp) : Text.isPlain time.text = true :=
  Text.isPlain_of_chars (Timestamp.text_unmarked time)

theorem readTimestamp_text {time : Timestamp} (aware : time.IsAware) (field : String) :
    readTimestamp field (.text time.text) = .ok (.known time) :=
  readTimestamp_eq_ok.mpr ⟨_, _, rfl, Timestamp.ofSaved?_text aware, rfl⟩

theorem version_current : (Value.int version).equals (.int version) = true := by
  simp [Value.equals, Value.isNaN, Value.same, Value.sameScalar, Value.countable?, Value.number?,
    Number.eq, Number.compare?]

/-- The text of a time that is one. -/
def timeText : Loose Timestamp → String
  | .known time => time.text
  | .other _ => ""

/-- The fields of a record in a document. -/
def recordFields (record : ChoiceRecord) : Table Value :=
  [("nodeId", record.nodeId), ("choiceIndex", record.choiceIndex),
    ("choiceText", record.choiceText), ("timestamp", .text (timeText record.timestamp))]

/-- The fields of a status effect in a document. -/
def effectFields (effect : StatusEffect) : Table Value :=
  [("type", effect.type), ("value", effect.value)] ++
    optional "duration" effect.duration ++ optional "source" effect.source

theorem mapM_writeRecord {history : List ChoiceRecord}
    (timed : ∀ record ∈ history, ∃ time, record.timestamp = .known time) :
    history.mapM writeRecord = .ok (history.map fun record => .object (recordFields record)) := by
  induction history with
  | nil => rfl
  | cons record history ih =>
    obtain ⟨⟨time, known⟩, others⟩ := List.forall_mem_cons.mp timed
    have written : writeRecord record = .ok (.object (recordFields record)) := by
      rw [writeRecord, recordFields, known]
      rfl
    rw [List.mapM_cons, written, ih others]
    rfl

section
variable {α : Type} {fields : α → Table Value} (good : α → Prop) {entries : List α}

theorem mapM_zipIdx_eq_ok {step : Value × Nat → Outcome (Loose α)}
    (each : ∀ entry ∈ entries, ∀ index found,
      step (.object (fields entry), index) = .ok found ↔ good entry ∧ found = .known entry)
    (start : Nat) {found : List (Loose α)} :
    ((entries.map fun entry => Value.object (fields entry)).zipIdx start).mapM step = .ok found ↔
      (∀ entry ∈ entries, good entry) ∧ found = entries.map .known := by
  induction entries generalizing start found with
  | nil =>
    rw [List.map_nil, List.zipIdx_nil, List.mapM_nil, pure_eq_ok]
    exact ⟨fun same => ⟨nofun, same.symm⟩, fun both => both.2.symm⟩
  | cons entry entries ih =>
    obtain ⟨first, others⟩ := List.forall_mem_cons.mp each
    rw [List.map_cons, List.zipIdx_cons, List.mapM_cons, bind_eq_ok]
    simp only [bind_eq_ok, pure_eq_ok, first, ih others]
    constructor
    · rintro ⟨_, ⟨fine, rfl⟩, _, ⟨rest, rfl⟩, rfl⟩
      exact ⟨List.forall_mem_cons.mpr ⟨fine, rest⟩, rfl⟩
    · rintro ⟨fine, rfl⟩
      obtain ⟨fine, rest⟩ := List.forall_mem_cons.mp fine
      exact ⟨_, ⟨fine, rfl⟩, _, ⟨rest, rfl⟩, rfl⟩

theorem readEntries_eq_ok {read : String → Table Value → Outcome α}
    (each : ∀ entry ∈ entries, ∀ place found,
      read place (fields entry) = .ok found ↔ good entry ∧ found = entry)
    (field : String) {result : Loose (List (Loose α))} :
    readEntries field read (.list (entries.map fun entry => .object (fields entry))) = .ok result ↔
      (∀ entry ∈ entries, good entry) ∧ result = .known (entries.map .known) := by
  refine (bind_eq_ok.trans (exists_congr fun found => and_congr_left'
    (mapM_zipIdx_eq_ok good (fun entry member index found => ?single) 0))).trans ?_
  case single =>
    refine bind_eq_ok.trans ?_
    simp only [each entry member, pure_eq_ok]
    constructor
    · rintro ⟨_, ⟨fine, rfl⟩, rfl⟩
      exact ⟨fine, rfl⟩
    · rintro ⟨fine, rfl⟩
      exact ⟨_, ⟨fine, rfl⟩, rfl⟩
  simp only [pure_eq_ok]
  constructor
  · rintro ⟨_, ⟨fine, rfl⟩, rfl⟩
    exact ⟨fine, rfl⟩
  · rintro ⟨fine, rfl⟩
    exact ⟨_, ⟨fine, rfl⟩, rfl⟩

end

theorem record_shape {record : ChoiceRecord} (sound : record.Sound) (plain : record.Plain) :
    ∃ name index text time, record = ⟨.text name, .int index, .text text, .known time⟩ ∧
      Text.IsName name ∧ Text.isPlain text = true ∧ time.IsAware := by
  obtain ⟨nodeId, choiceIndex, choiceText, timestamp⟩ := record
  obtain ⟨name, rfl, named⟩ : nodeId.IsName := plain.node
  obtain ⟨text, rfl⟩ := Value.text?_isSome.mp sound.text
  obtain ⟨time, rfl, aware⟩ : ∃ time : Timestamp, timestamp = .known time ∧ time.IsAware := plain.time
  obtain ⟨index, rfl⟩ := Value.int?_isSome.mp sound.index
  exact ⟨name, index, text, time, rfl, named, plain.text, aware⟩

theorem readRecord_sorted {record : ChoiceRecord} (sound : record.Sound) (plain : record.Plain)
    (place : String) : readRecord place (Table.sorted (recordFields record)) = .ok record := by
  obtain ⟨name, index, text, time, rfl, named, _, aware⟩ := record_shape sound plain
  let fields := recordFields ⟨.text name, .int index, .text text, .known time⟩
  have worded : Assoc.get? (Table.sorted fields) "choiceText" = some (.text text) :=
    Table.get?_sorted fields "choiceText"
  exact readRecord_eq_ok.mpr {
    node := Value.field_sorted fields "nodeId"
    index := Value.field_sorted fields "choiceIndex"
    text := congrArg (Option.getD · _) worded
    time := ⟨_, _, Value.field_sorted fields "timestamp", Timestamp.ofSaved?_text aware, rfl⟩
    filled := Value.isFilledText_iff.mpr ⟨name, rfl, named.filled⟩
    isIndex := rfl
    isText := rfl }

theorem isPlain_record {record : ChoiceRecord} (sound : record.Sound) (plain : record.Plain) :
    (Value.object (recordFields record)).isPlain = true ∧
      (Value.object (recordFields record)).depth = 1 := by
  obtain ⟨name, index, text, time, rfl, named, worded, _⟩ := record_shape sound plain
  have keys : (["nodeId", "choiceIndex", "choiceText", "timestamp"].all Text.isPlain) = true := by
    decide
  simp only [List.all_cons, List.all_nil, Bool.and_true, Bool.and_eq_true] at keys
  refine ⟨?_, rfl⟩
  simp [recordFields, Value.isPlain, Value.fieldsPlain, keys, named.plain, worded, timeText,
    isPlain_time time]

theorem effect_shape {effect : StatusEffect} (sound : effect.Sound) (plain : effect.Plain) :
    ∃ name number duration source, effect = ⟨.text name, Number.toValue number, duration, source⟩ ∧
      Text.IsName name ∧ number.Settled ∧ (duration = .null ∨ ∃ turns : Nat, duration = .int turns) ∧
        (source = .null ∨ ∃ text, source = .text text ∧ Text.isPlain text = true) := by
  obtain ⟨type, value, duration, source⟩ := effect
  obtain ⟨name, rfl, named⟩ : type.IsName := plain.type
  obtain ⟨number, rfl, settled⟩ : value.IsFinite := sound.value
  have optional : (source.isNull || source.text?.isSome) = true := sound.source
  have plainSource : source.isPlain = true := plain.source
  refine ⟨name, number, duration, source, rfl, named, settled, ?_, ?_⟩
  · rcases sound.duration with permanent | ⟨turns, timed, bound⟩
    · exact .inl permanent
    · obtain ⟨count, rfl⟩ := Int.eq_ofNat_of_zero_le bound
      exact .inr ⟨count, timed⟩
  · cases source with
    | null => exact .inl rfl
    | text content => exact .inr ⟨content, rfl, plainSource⟩
    | _ => cases optional

theorem sorted_number (number : Number) : number.toValue.sorted = number.toValue := by
  cases number <;> rfl

theorem isPlain_number {number : Number} (settled : number.Settled) :
    number.toValue.isPlain = true ∧ number.toValue.depth = 0 := by
  cases number with
  | int value => exact ⟨rfl, rfl⟩
  | real x =>
    cases x with
    | nan mark => cases settled
    | _ => exact ⟨rfl, rfl⟩

theorem field_duration (effect : StatusEffect) :
    Value.field (effectFields effect) "duration" = effect.duration := by
  obtain ⟨type, value, duration, source⟩ := effect
  cases duration with
  | null => cases source <;> rfl
  | _ => rfl

theorem field_source (effect : StatusEffect) :
    Value.field (effectFields effect) "source" = effect.source := by
  obtain ⟨type, value, duration, source⟩ := effect
  cases duration <;> cases source <;> rfl

/-- A status effect is read back exactly if its value is within the range of doubles. -/
theorem readEffect_sorted {effect : StatusEffect} (sound : effect.Sound) (plain : effect.Plain)
    (place : String) (found : StatusEffect) :
    readEffect place (Table.sorted (effectFields effect)) = .ok found ↔
      effect.value.Sized ∧ found = effect := by
  obtain ⟨name, number, duration, source, rfl, named, settled, lasts, stated⟩ := effect_shape sound plain
  let effect : StatusEffect := ⟨.text name, number.toValue, duration, source⟩
  have typed : Value.field (Table.sorted (effectFields effect)) "type" = .text name :=
    Value.field_sorted (effectFields effect) "type"
  have valued : (Assoc.get? (Table.sorted (effectFields effect)) "value").getD (.int 0) =
      number.toValue := by
    rw [Table.sorted, Table.get?_sorted]
    exact sorted_number number
  have timed : Value.field (Table.sorted (effectFields effect)) "duration" = duration := by
    rw [Value.field_sorted, field_duration]
    rcases lasts with rfl | ⟨turns, rfl⟩ <;> rfl
  have sourced : Value.field (Table.sorted (effectFields effect)) "source" = source := by
    rw [Value.field_sorted, field_source]
    rcases stated with rfl | ⟨text, rfl, _⟩ <;> rfl
  rw [readEffect_eq_ok]
  constructor
  · intro reads
    have same : found = effect := by
      obtain ⟨type, value, duration, source⟩ := found
      obtain rfl : type = _ := reads.type.symm.trans typed
      obtain rfl : value = _ := reads.value.symm.trans valued
      obtain rfl : duration = _ := reads.duration.symm.trans timed
      obtain rfl : source = _ := reads.source.symm.trans sourced
      rfl
    have finite := reads.finite
    rw [same] at finite
    exact ⟨(Value.isFiniteNumber_eq_ok.mp finite).2, same⟩
  · rintro ⟨sized, rfl⟩
    exact {
      type := typed
      value := valued
      duration := timed
      source := sourced
      filled := Value.isFilledText_iff.mpr ⟨name, rfl, named.filled⟩
      finite := Value.isFiniteNumber_eq_ok.mpr ⟨⟨number, rfl, settled⟩, sized⟩
      lasts := StatusEffect.check_of_lasts sound.duration
      stated := sound.source }

theorem isPlain_effect {effect : StatusEffect} (sound : effect.Sound) (plain : effect.Plain) :
    (Value.object (effectFields effect)).isPlain = true ∧
      (Value.object (effectFields effect)).depth = 1 := by
  obtain ⟨name, number, duration, source, rfl, named, settled, lasts, stated⟩ := effect_shape sound plain
  have keys : (["type", "value", "duration", "source"].all Text.isPlain) = true := by decide
  simp only [List.all_cons, List.all_nil, Bool.and_true, Bool.and_eq_true] at keys
  have valued := isPlain_number settled
  rcases lasts with rfl | ⟨turns, rfl⟩ <;> rcases stated with rfl | ⟨text, rfl, worded⟩ <;>
    simp_all [effectFields, optional, Value.isNull, Value.isPlain, Value.fieldsPlain, Value.depth,
      Value.fieldsDepth, named.plain]

theorem sorted_objects {α : Type} (fields : α → Table Value) (entries : List α) :
    (Value.list (entries.map fun entry => .object (fields entry))).sorted =
      .list (entries.map fun entry => .object (Table.sorted (fields entry))) := by
  rw [Value.sorted, Value.sortedItems_eq_map, List.map_map]
  rfl

theorem readHistory_sorted {history : List ChoiceRecord} (sound : ∀ record ∈ history, record.Sound)
    (plain : ∀ record ∈ history, record.Plain) :
    readEntries "choicesHistory" readRecord
        (Value.list (history.map fun record => .object (recordFields record))).sorted =
      .ok (.known (history.map .known)) := by
  rw [sorted_objects]
  refine (readEntries_eq_ok (fun _ => True) (fun record member place found => ?_) _).mpr
    ⟨fun _ _ => trivial, rfl⟩
  rw [readRecord_sorted (sound record member) (plain record member)]
  simp [eq_comm]

theorem readEffects_sorted {effects : List StatusEffect} (sound : ∀ effect ∈ effects, effect.Sound)
    (plain : ∀ effect ∈ effects, effect.Plain) (result : Loose (List (Loose StatusEffect))) :
    readEntries "statusEffects" readEffect
        (Value.list (effects.map fun effect => .object (effectFields effect))).sorted = .ok result ↔
      (∀ effect ∈ effects, effect.value.Sized) ∧ result = .known (effects.map .known) := by
  rw [sorted_objects]
  exact readEntries_eq_ok (fun effect => effect.value.Sized) (fun effect member =>
    readEffect_sorted (sound effect member) (plain effect member)) _

end Snapshot

namespace GameState.Contents

/-- The fields that a document keeps of contents. -/
def document (contents : Contents) : Table Value := [
  ("version", .int Snapshot.version),
  ("playerId", .text contents.player),
  ("storyId", .text contents.story),
  ("saveId", .text contents.save),
  ("currentNodeId", .text contents.node),
  ("visitedNodes", .list contents.visits),
  ("choicesHistory",
    .list (contents.history.map fun record => .object (Snapshot.recordFields record))),
  ("stats", .object (Dict.named contents.stats)),
  ("wallets", .object (Dict.named contents.wallets)),
  ("inventory", .object (Dict.named contents.inventory)),
  ("flags", .object (Dict.named contents.flags)),
  ("statusEffects",
    .list (contents.effects.map fun effect => .object (Snapshot.effectFields effect))),
  ("createdAt", .text contents.created.text),
  ("updatedAt", .text contents.updated.text)] ++ Snapshot.optional "seed" contents.seed

/-- Contents with all their tables sorted. -/
def sorted (contents : Contents) : Contents := { contents with
  stats := Dict.sorted contents.stats
  wallets := Dict.sorted contents.wallets
  inventory := Dict.sorted contents.inventory
  flags := Dict.sorted contents.flags }

variable {contents : Contents}

theorem ofState_eq_ok [Host] (timed : ∀ record ∈ contents.history, ∃ time, record.timestamp = .known time)
    {document : Table Value} : Snapshot.ofState contents.state = .ok document ↔
      Value.entriesDepth contents.flags ≤ Host.copying ∧ document = contents.document := by
  have written (deep : Value.entriesDepth contents.flags ≤ Host.copying) :
      Snapshot.ofState contents.state = .ok contents.document := by
    refine bind_eq_ok.mpr ⟨contents.visits, rfl, ?_⟩
    refine bind_eq_ok.mpr ⟨_, Loose.entries_known contents.history, ?_⟩
    refine bind_eq_ok.mpr ⟨_, Snapshot.mapM_writeRecord timed, ?_⟩
    refine bind_eq_ok.mpr ⟨_, rfl, bind_eq_ok.mpr ⟨_, rfl, bind_eq_ok.mpr ⟨_, rfl, ?_⟩⟩⟩
    refine bind_eq_ok.mpr ⟨.known contents.flags, if_pos deep, ?_⟩
    refine bind_eq_ok.mpr ⟨_, Loose.entries_known contents.effects, ?_⟩
    exact bind_eq_ok.mpr ⟨_, rfl, bind_eq_ok.mpr ⟨_, rfl, rfl⟩⟩
  constructor
  · intro ok
    have deep : Value.entriesDepth contents.flags ≤ Host.copying := by
      obtain ⟨_, _, rest⟩ := bind_eq_ok.mp ok
      obtain ⟨_, _, rest⟩ := bind_eq_ok.mp rest
      obtain ⟨_, _, rest⟩ := bind_eq_ok.mp rest
      obtain ⟨_, _, rest⟩ := bind_eq_ok.mp rest
      obtain ⟨_, _, rest⟩ := bind_eq_ok.mp rest
      obtain ⟨_, _, rest⟩ := bind_eq_ok.mp rest
      obtain ⟨_, copied, _⟩ := bind_eq_ok.mp rest
      exact (Loose.copied_eq_ok copied).2
    exact ⟨deep, Except.ok.inj (ok.symm.trans (written deep))⟩
  · rintro ⟨deep, rfl⟩
    exact written deep

theorem ofState_eq_error [Host]
    (timed : ∀ record ∈ contents.history, ∃ time, record.timestamp = .known time) {fault : Fault} :
    Snapshot.ofState contents.state = .error fault ↔
      Host.copying < Value.entriesDepth contents.flags ∧ fault = .tooDeep := by
  have uncopied (deep : Host.copying < Value.entriesDepth contents.flags) :
      Snapshot.ofState contents.state = .error .tooDeep := by
    refine bind_eq_error.mpr (.inr ⟨contents.visits, rfl, ?_⟩)
    refine bind_eq_error.mpr (.inr ⟨_, Loose.entries_known contents.history, ?_⟩)
    refine bind_eq_error.mpr (.inr ⟨_, Snapshot.mapM_writeRecord timed, ?_⟩)
    refine bind_eq_error.mpr (.inr ⟨_, rfl, bind_eq_error.mpr (.inr ⟨_, rfl, ?_⟩)⟩)
    refine bind_eq_error.mpr (.inr ⟨_, rfl, ?_⟩)
    exact bind_eq_error.mpr (.inl (if_neg (Nat.not_le.mpr deep)))
  constructor
  · intro failed
    have deep : Host.copying < Value.entriesDepth contents.flags := by
      refine Nat.lt_of_not_le fun shallow => ?_
      cases failed.symm.trans ((ofState_eq_ok timed).mpr ⟨shallow, rfl⟩)
    exact ⟨deep, Except.error.inj (failed.symm.trans (uncopied deep))⟩
  · rintro ⟨deep, rfl⟩
    exact uncopied deep

theorem document_names : contents.document.map (·.1) = ["version", "playerId", "storyId", "saveId",
    "currentNodeId", "visitedNodes", "choicesHistory", "stats", "wallets", "inventory", "flags",
    "statusEffects", "createdAt", "updatedAt"] ++ if contents.seed.isNull then [] else ["seed"] := by
  rw [document, List.map_append, Snapshot.optional]
  split <;> rfl

theorem named_entries {dict : Dict} (texts : ∀ entry ∈ dict, entry.1.text?.isSome = true)
    (plain : dict.Plain) : (Value.object dict.named).isPlain = true ∧
      (Value.object dict.named).depth = Value.entriesDepth dict + 1 := by
  refine ⟨Dict.isPlain_named texts plain, ?_⟩
  rw [Value.depth, ← Value.entriesDepth_ofTable, Dict.ofTable_named texts plain.distinct]

theorem entriesDepth_numbers {dict : Dict} {least : Int}
    (numbers : ∀ entry ∈ dict, entry.1.text?.isSome = true ∧ entry.2.Reaches least) :
    Value.entriesDepth dict = 0 := by
  refine Nat.le_zero.mp (Value.entriesDepth_le_iff.mpr fun entry member => ?_)
  obtain ⟨number, same, settled, _⟩ := (numbers entry member).2
  exact Nat.le_of_eq (same ▸ (Snapshot.isPlain_number settled).2)

theorem seed_shape (storable : contents.Storable) :
    contents.seed = .null ∨ ∃ content, contents.seed = .text content ∧ Text.isPlain content = true := by
  have optional := storable.seed
  have plain := storable.plainSeed
  cases seed : contents.seed with
  | null => exact .inl rfl
  | text content => exact .inr ⟨content, rfl, by rwa [seed, Value.isPlain] at plain⟩
  | _ => simp [seed, Value.isNull, Value.text?] at optional

/-- What the fields of a document hold is plain, and hardly deeper than flags may be. -/
theorem document_entries [Host] (storable : contents.Storable)
    (deep : Value.entriesDepth contents.flags ≤ Host.copying) :
    ∀ field ∈ contents.document, field.2.isPlain = true ∧ field.2.depth ≤ Host.copying + 2 := by
  have text {content : String} (plain : Text.isPlain content = true) :
      (Value.text content).isPlain = true ∧ (Value.text content).depth ≤ Host.copying + 2 :=
    ⟨plain, Nat.zero_le _⟩
  have table {dict : Dict} {least : Int}
      (numbers : ∀ entry ∈ dict, entry.1.text?.isSome = true ∧ entry.2.Reaches least)
      (plain : dict.Plain) : (Value.object dict.named).isPlain = true ∧
        (Value.object dict.named).depth ≤ Host.copying + 2 := by
    obtain ⟨named, depth⟩ := named_entries (fun entry member => (numbers entry member).1) plain
    refine ⟨named, ?_⟩
    rw [depth, entriesDepth_numbers numbers]
    exact Nat.succ_le_succ (Nat.zero_le _)
  have list {items : List Value} (each : ∀ item ∈ items, item.isPlain = true ∧ item.depth ≤ 1) :
      (Value.list items).isPlain = true ∧ (Value.list items).depth ≤ Host.copying + 2 := by
    refine ⟨?_, Nat.succ_le_succ ?_⟩
    · rw [Value.isPlain, Value.allPlain_eq_all]
      exact List.all_eq_true.mpr fun item member => (each item member).1
    · refine Nat.le_trans (Value.itemsDepth_le_iff.mpr fun item member => (each item member).2) ?_
      exact Nat.le_add_left 1 _
  refine List.forall_mem_append.mpr ⟨?_, ?_⟩
  · simp only [List.forall_mem_cons]
    refine ⟨⟨rfl, Nat.zero_le _⟩, text storable.player.plain, text storable.story.plain,
      text storable.save.plain, text storable.node.plain, list ?visits, list ?history,
      table storable.stats storable.plainStats, table storable.wallets storable.plainWallets,
      table storable.inventory storable.plainInventory, ?flags, list ?effects,
      text (Snapshot.isPlain_time contents.created), text (Snapshot.isPlain_time contents.updated),
      List.forall_mem_nil _⟩
    case visits =>
      intro visit member
      obtain ⟨name, rfl⟩ := Value.text?_isSome.mp (storable.visits visit member)
      exact ⟨storable.plainVisits _ member, Nat.zero_le _⟩
    case history =>
      intro item member
      obtain ⟨record, inside, rfl⟩ := List.mem_map.mp member
      obtain ⟨plain, depth⟩ := Snapshot.isPlain_record (storable.history record inside)
        (storable.plainHistory record inside)
      exact ⟨plain, Nat.le_of_eq depth⟩
    case flags =>
      obtain ⟨plain, depth⟩ := named_entries storable.flags storable.plainFlags
      exact ⟨plain, depth ▸ Nat.le_succ_of_le (Nat.succ_le_succ deep)⟩
    case effects =>
      intro item member
      obtain ⟨effect, inside, rfl⟩ := List.mem_map.mp member
      obtain ⟨plain, depth⟩ := Snapshot.isPlain_effect (storable.effects effect inside)
        (storable.plainEffects effect inside)
      exact ⟨plain, Nat.le_of_eq depth⟩
  · intro field member
    unfold Snapshot.optional at member
    split at member
    · cases member
    · rename_i given
      rw [List.mem_singleton.mp member]
      rcases seed_shape storable with seed | ⟨content, seed, plain⟩
      · exact absurd (congrArg Value.isNull seed) given
      · exact seed ▸ text plain

theorem readVisited_sorted (storable : contents.Storable) :
    Snapshot.readVisited (Value.list contents.visits).sorted = .ok (.known contents.visits) := by
  have same : contents.visits.map Value.sorted = contents.visits := by
    refine (List.map_congr_left fun visit member => ?_).trans (List.map_id _)
    obtain ⟨name, rfl⟩ := Value.text?_isSome.mp (storable.visits visit member)
    rfl
  have texts : contents.visits.all (·.text?.isSome) = true := List.all_eq_true.mpr storable.visits
  rw [Value.sorted, Value.sortedItems_eq_map, same]
  exact bind_eq_ok.mpr ⟨(), require_eq_ok.mpr texts, rfl⟩

theorem readFlags_sorted [Host] (storable : contents.Storable)
    (deep : Value.entriesDepth contents.flags ≤ Host.copying) :
    Snapshot.readFlags "flags" (Value.object (Dict.named contents.flags)).sorted =
      .ok (.known (Dict.sorted contents.flags)) := by
  have depth := Dict.entriesDepth_sorted storable.flags storable.plainFlags
  refine bind_eq_ok.mpr ⟨_, Dict.readTable_named storable.flags storable.plainFlags _, ?_⟩
  exact Fault.lift_eq_ok.mpr (if_pos (Nat.le_trans (Nat.le_of_eq depth) deep))

theorem field_seed (contents : Contents) :
    Value.field contents.document "seed" = contents.seed := by
  cases seed : contents.seed <;>
    simp [document, seed, Snapshot.optional, Value.field, Assoc.get?, Value.isNull]

theorem readSeed_sorted (storable : contents.Storable) :
    Snapshot.readOptionalText "seed" (Value.field contents.document "seed").sorted =
      .ok contents.seed := by
  rw [field_seed, Snapshot.readOptionalText_eq_ok]
  rcases seed_shape storable with seed | ⟨content, seed, _⟩ <;> rw [seed] <;> exact ⟨rfl, rfl⟩

/-- The fields of a storable state are read back exactly if its effects are within bounds. -/
theorem readFields_document [Host] (storable : contents.Storable)
    (deep : Value.entriesDepth contents.flags ≤ Host.copying) (found : GameState) :
    Snapshot.readFields (Table.sorted contents.document) = .ok found ↔
      (∀ effect ∈ contents.effects, effect.value.Sized) ∧ found = contents.sorted.state := by
  have field (name : String) : Value.field (Table.sorted contents.document) name =
      (Value.field contents.document name).sorted := Value.field_sorted contents.document name
  have effects := Snapshot.readEffects_sorted storable.effects storable.plainEffects
  have text {content : String} (name : String) (filled : content ≠ "") :
      Snapshot.readText name (.text content) = .ok (.text content) :=
    Snapshot.readText_eq_ok.mpr ⟨Value.isFilledText_iff.mpr ⟨content, rfl, filled⟩, rfl⟩
  have table {dict : Dict} {least : Int} (name : String)
      (numbers : ∀ entry ∈ dict, entry.1.text?.isSome = true ∧ entry.2.Reaches least)
      (plain : dict.Plain) : Snapshot.readTable name (Value.object dict.named).sorted =
        .ok (.known dict.sorted) :=
    Dict.readTable_named (fun entry member => (numbers entry member).1) plain name
  have versioned : Assoc.get? (Table.sorted contents.document) "version" =
      some (.int Snapshot.version) := Table.get?_sorted contents.document "version"
  have played : Assoc.get? (Table.sorted contents.document) "playerId" =
      some (.text contents.player) := Table.get?_sorted contents.document "playerId"
  rw [Snapshot.readFields_eq_ok]
  have read (sized : ∀ effect ∈ contents.effects, effect.value.Sized) :
      Snapshot.Reads (Table.sorted contents.document) contents.sorted.state := by
    constructor
    case version => rw [versioned]; exact Snapshot.version_current
    case player => rw [played]; exact text _ storable.player.filled
    all_goals rw [field]
    case story => exact text _ storable.story.filled
    case save => exact text _ storable.save.filled
    case node => exact text _ storable.node.filled
    case visits => exact readVisited_sorted storable
    case history => exact Snapshot.readHistory_sorted storable.history storable.plainHistory
    case stats => exact table _ storable.stats storable.plainStats
    case wallets => exact table _ storable.wallets storable.plainWallets
    case inventory => exact table _ storable.inventory storable.plainInventory
    case flags => exact readFlags_sorted storable deep
    case effects => exact (effects _).mpr ⟨sized, rfl⟩
    case created => exact Snapshot.readTimestamp_text storable.created _
    case updated => exact Snapshot.readTimestamp_text storable.updated _
    case seed => exact readSeed_sorted storable
  constructor
  · intro reads
    have afflicted := reads.effects
    rw [field] at afflicted
    have sized := ((effects _).mp afflicted).1
    exact ⟨sized, Except.ok.inj ((Snapshot.readFields_eq_ok.mpr reads).symm.trans
      (Snapshot.readFields_eq_ok.mpr (read sized)))⟩
  · rintro ⟨sized, rfl⟩
    exact read sized

theorem isPlain_document [Host] (storable : contents.Storable)
    (deep : Value.entriesDepth contents.flags ≤ Host.copying) :
    (Value.object contents.document).isPlain = true ∧
      (Value.object contents.document).depth ≤ Host.reading := by
  have entries := document_entries storable deep
  have names : (contents.document.map (·.1)).all Text.isPlain = true := by
    rw [document_names]
    split <;> decide
  refine ⟨?_, ?_⟩
  · rw [Value.isPlain, Bool.and_eq_true, decide_eq_true_eq, document_names, Value.fieldsPlain_eq_all]
    refine ⟨List.all_eq_true.mpr fun field member => ?_, by split <;> decide⟩
    have name := List.all_eq_true.mp names field.1 (List.mem_map_of_mem member)
    rw [name, (entries field member).1]
    rfl
  · have bound := Value.fieldsDepth_le_iff.mpr fun field member => (entries field member).2
    exact Nat.le_trans (Nat.succ_le_succ bound) Host.copying_reading

theorem checked_iff {dict : Dict} {least : Int}
    (numbers : ∀ entry ∈ dict, entry.1.text?.isSome = true ∧ entry.2.Reaches least) :
    (∀ entry ∈ dict.sorted, entry.2.isAtLeast least = .ok true) ↔ ∀ entry ∈ dict, entry.2.Sized := by
  have unsorted : ∀ entry ∈ dict, entry.2.sorted = entry.2 := by
    intro entry member
    obtain ⟨number, same, _⟩ := (numbers entry member).2
    rw [same, Snapshot.sorted_number]
  constructor
  · intro checked entry member
    have inside : (entry.1, entry.2.sorted) ∈ dict.sorted := Dict.mem_sorted.mpr ⟨entry, member, rfl⟩
    rw [unsorted entry member] at inside
    exact (Value.isAtLeast_eq_ok.mp (checked _ inside)).2
  · intro sized entry member
    obtain ⟨old, inside, rfl⟩ := Dict.mem_sorted.mp member
    rw [unsorted old inside]
    exact Value.isAtLeast_eq_ok.mpr ⟨(numbers old inside).2, sized old inside⟩

theorem sorted_numbers {dict : Dict} {least : Int}
    (numbers : ∀ entry ∈ dict, entry.1.text?.isSome = true ∧ entry.2.Reaches least) :
    ∀ entry ∈ dict.sorted, entry.1.text?.isSome = true ∧ entry.2.Reaches least := by
  intro entry member
  obtain ⟨old, inside, rfl⟩ := Dict.mem_sorted.mp member
  obtain ⟨text, number, same, reaches⟩ := numbers old inside
  rw [same, Snapshot.sorted_number]
  exact ⟨text, number, rfl, reaches⟩

theorem Storable.sorted (storable : contents.Storable) : contents.sorted.Storable := {
  storable with
  stats := sorted_numbers storable.stats
  wallets := sorted_numbers storable.wallets
  inventory := sorted_numbers storable.inventory
  flags := fun entry member => by
    obtain ⟨old, inside, rfl⟩ := Dict.mem_sorted.mp member
    exact storable.flags old inside
  plainStats := storable.plainStats.sorted
  plainWallets := storable.plainWallets.sorted
  plainInventory := storable.plainInventory.sorted
  plainFlags := storable.plainFlags.sorted }

/-- Validation has nothing against sorted storable contents but numbers that are too large. -/
theorem validate_sorted (storable : contents.Storable) :
    contents.sorted.state.validate = .ok () ↔ (∀ entry ∈ contents.stats, entry.2.Sized) ∧
      (∀ entry ∈ contents.wallets, entry.2.Sized) ∧ ∀ entry ∈ contents.inventory, entry.2.Sized := by
  rw [validate_eq_ok, ← checked_iff storable.stats, ← checked_iff storable.wallets,
    ← checked_iff storable.inventory]
  constructor
  · rintro ⟨other, same, valid⟩
    have stats : Dict.sorted contents.stats = other.stats := Loose.known.inj (congrArg GameState.stats same)
    have wallets : Dict.sorted contents.wallets = other.wallets :=
      Loose.known.inj (congrArg GameState.wallets same)
    have inventory : Dict.sorted contents.inventory = other.inventory :=
      Loose.known.inj (congrArg GameState.inventory same)
    rw [stats, wallets, inventory]
    exact ⟨valid.stats, valid.wallets, valid.inventory⟩
  · rintro ⟨stats, wallets, inventory⟩
    refine ⟨contents.sorted, rfl, ⟨storable.player.filled, storable.story.filled, storable.save.filled,
      storable.node.filled, stats, wallets, inventory, fun effect member => ?_, fun effect member => ?_,
      storable.visited⟩⟩
    · obtain ⟨name, same, named⟩ := (storable.plainEffects effect member).type
      exact Value.isFilledText_iff.mpr ⟨name, same, named.filled⟩
    · exact StatusEffect.check_of_lasts (storable.effects effect member).duration

/-- A storable state is restored from its document exactly if no number in it is too large. -/
theorem restore_document [Host] (storable : contents.Storable)
    (deep : Value.entriesDepth contents.flags ≤ Host.copying) (found : GameState) :
    Snapshot.restore (Value.object contents.document).sorted = .ok found ↔
      contents.Sized ∧ found = contents.sorted.state := by
  rw [Value.sorted_object]
  refine bind_eq_ok.trans ?_
  simp only [bind_eq_ok, pure_eq_ok, readFields_document storable deep]
  constructor
  · rintro ⟨_, ⟨effects, rfl⟩, _, accepted, rfl⟩
    obtain ⟨stats, wallets, inventory⟩ := (validate_sorted storable).mp accepted
    exact ⟨⟨stats, wallets, inventory, effects⟩, rfl⟩
  · rintro ⟨sized, rfl⟩
    exact ⟨_, ⟨sized.effects, rfl⟩, (),
      (validate_sorted storable).mpr ⟨sized.stats, sized.wallets, sized.inventory⟩, rfl⟩

end GameState.Contents
end Gamebook
