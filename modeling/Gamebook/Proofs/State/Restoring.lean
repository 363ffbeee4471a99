import Gamebook.Proofs.Effect.StatusList
import Gamebook.Proofs.State.Validation
import Gamebook.State.Snapshot

/-!
What is known of a state that was read from a document, beside what validation accepts: every entry
of every list and table is of its kind.
-/
namespace Gamebook

/-- An entry of the log as documents hold them. -/
structure ChoiceRecord.Sound (record : ChoiceRecord) : Prop where
  node : record.nodeId.text?.isSome = true
  index : record.choiceIndex.int?.isSome = true
  text : record.choiceText.text?.isSome = true
  time : ∃ time, record.timestamp = .known time

/-- A status effect as documents hold them, but for the size of its value. -/
structure StatusEffect.Sound (effect : StatusEffect) : Prop where
  type : effect.type.text?.isSome = true
  value : effect.value.IsFinite
  duration : effect.Lasts 0
  source : (effect.source.isNull || effect.source.text?.isSome) = true

/-- Contents of which every part is as documents hold it, but for the sizes of numbers. -/
structure GameState.Contents.Sound (contents : GameState.Contents) : Prop where
  visits : ∀ visit ∈ contents.visits, visit.text?.isSome = true
  visited : .text contents.node ∈ contents.visits
  history : ∀ record ∈ contents.history, record.Sound
  stats : ∀ entry ∈ contents.stats, entry.1.text?.isSome = true ∧ entry.2.Reaches 1
  wallets : ∀ entry ∈ contents.wallets, entry.1.text?.isSome = true ∧ entry.2.Reaches 0
  inventory : ∀ entry ∈ contents.inventory, entry.1.text?.isSome = true ∧ entry.2.Reaches 0
  flags : ∀ entry ∈ contents.flags, entry.1.text?.isSome = true
  effects : ∀ effect ∈ contents.effects, effect.Sound
  seed : (contents.seed.isNull || contents.seed.text?.isSome) = true

theorem Value.isFilledText_text {value : Value} (filled : value.isFilledText = true) :
    value.text?.isSome = true := by
  obtain ⟨content, rfl, _⟩ := isFilledText_iff.mp filled
  rfl

namespace Snapshot

theorem readText_eq_ok {field : String} {value result : Value} :
    readText field value = .ok result ↔ value.isFilledText = true ∧ value = result := by
  simp only [readText, bind_eq_ok, require_eq_ok, pure_eq_ok, exists_const]

theorem readOptionalText_eq_ok {field : String} {value result : Value} :
    readOptionalText field value = .ok result ↔
      (value.isNull || value.text?.isSome) = true ∧ value = result := by
  simp only [readOptionalText, bind_eq_ok, require_eq_ok, pure_eq_ok, exists_const]

theorem readVisited_items {value : Value} {entry : Loose (List Value)}
    (ok : readVisited value = .ok entry) : entry = .known (value.items?.getD []) := by
  unfold readVisited at ok
  split at ok
  · cases ok
    rfl
  · obtain ⟨_, _, rest⟩ := bind_eq_ok.mp ok
    exact (pure_eq_ok.mp rest).symm
  · cases ok

theorem readVisited_texts {value : Value} {visits : List Value}
    (ok : readVisited value = .ok (.known visits)) : ∀ visit ∈ visits, visit.text?.isSome = true := by
  unfold readVisited at ok
  split at ok
  · cases ok
    exact List.forall_mem_nil _
  · obtain ⟨_, required, rest⟩ := bind_eq_ok.mp ok
    cases pure_eq_ok.mp rest
    exact List.all_eq_true.mp (require_eq_ok.mp required)
  · cases ok

theorem readTable_fields {field : String} {value : Value} {entry : Loose Dict}
    (ok : readTable field value = .ok entry) : entry = .known (.ofTable (value.fields?.getD [])) := by
  unfold readTable at ok
  split at ok <;> cases ok <;> rfl

theorem readTable_names {field : String} {value : Value} {table : Dict}
    (ok : readTable field value = .ok (.known table)) :
    ∀ entry ∈ table, entry.1.text?.isSome = true := by
  obtain rfl := Loose.known.inj (readTable_fields ok)
  intro entry member
  obtain ⟨field, _, rfl⟩ := List.mem_map.mp member
  rfl

theorem readFlags_eq_ok [Host] {field : String} {value : Value} {flags : Loose Dict}
    (ok : readFlags field value = .ok flags) :
    readTable field value = .ok flags ∧ flags.depth ≤ Host.copying := by
  obtain ⟨table, read, rest⟩ := bind_eq_ok.mp ok
  obtain ⟨rfl, bound⟩ := Loose.copied_eq_ok (Fault.lift_eq_ok.mp rest)
  exact ⟨read, bound⟩

theorem readTimestamp_eq_ok {field : String} {value : Value} {entry : Loose Timestamp} :
    readTimestamp field value = .ok entry ↔ ∃ text time, value = .text text ∧
      Timestamp.ofSaved? text = some time ∧ entry = .known time := by
  cases value with
  | text text =>
    unfold readTimestamp
    dsimp only
    simp only [Value.text.injEq]
    generalize read : Timestamp.ofSaved? text = found
    cases found with
    | none =>
      refine ⟨nofun, ?_⟩
      rintro ⟨_, _, rfl, known, _⟩
      cases read.symm.trans known
    | some time =>
      constructor
      · rintro ⟨⟩
        exact ⟨text, time, rfl, read, rfl⟩
      · rintro ⟨_, _, rfl, known, rfl⟩
        rw [Option.some.inj (read.symm.trans known)]
  | _ => exact ⟨nofun, by rintro ⟨_, _, ⟨⟩, _⟩⟩

/-- What a record takes from the fields of a document. -/
structure ReadsRecord (fields : Table Value) (record : ChoiceRecord) : Prop where
  node : Value.field fields "nodeId" = record.nodeId
  index : Value.field fields "choiceIndex" = record.choiceIndex
  text : (fields.get? "choiceText").getD (.text "") = record.choiceText
  time : ∃ text time, Value.field fields "timestamp" = .text text ∧
    Timestamp.ofSaved? text = some time ∧ record.timestamp = .known time
  filled : record.nodeId.isFilledText = true
  isIndex : record.choiceIndex.int?.isSome = true
  isText : record.choiceText.text?.isSome = true

theorem readRecord_eq_ok {place : String} {fields : Table Value} {record : ChoiceRecord} :
    readRecord place fields = .ok record ↔ ReadsRecord fields record := by
  simp only [readRecord, bind_eq_ok, require_eq_ok, readText_eq_ok, readTimestamp_eq_ok, pure_eq_ok]
  constructor
  · rintro ⟨_, index, _, text, _, ⟨filled, rfl⟩, _, time, rfl⟩
    exact ⟨rfl, rfl, rfl, time, filled, index, text⟩
  · rintro ⟨node, index, text, time, filled, isIndex, isText⟩
    rw [node, index, text]
    exact ⟨(), isIndex, (), isText, _, ⟨filled, rfl⟩, _, time, rfl⟩

theorem ReadsRecord.sound {fields : Table Value} {record : ChoiceRecord}
    (reads : ReadsRecord fields record) : record.Sound := by
  obtain ⟨_, time, _, _, known⟩ := reads.time
  exact ⟨Value.isFilledText_text reads.filled, reads.isIndex, reads.isText, time, known⟩

/-- What a status effect takes from the fields of a document. -/
structure ReadsEffect (fields : Table Value) (effect : StatusEffect) : Prop where
  type : Value.field fields "type" = effect.type
  value : (fields.get? "value").getD (.int 0) = effect.value
  duration : Value.field fields "duration" = effect.duration
  source : Value.field fields "source" = effect.source
  filled : effect.type.isFilledText = true
  finite : isFiniteNumber effect.value = .ok true
  lasts : (effect.duration.isNull || effect.duration.isCount) = true
  stated : (effect.source.isNull || effect.source.text?.isSome) = true

theorem readEffect_eq_ok {place : String} {fields : Table Value} {effect : StatusEffect} :
    readEffect place fields = .ok effect ↔ ReadsEffect fields effect := by
  simp only [readEffect, bind_eq_ok, require_eq_ok, Fault.lift_eq_ok, readText_eq_ok,
    readOptionalText_eq_ok, pure_eq_ok]
  constructor
  · rintro ⟨_, finite, _, rfl, _, lasts, _, ⟨filled, rfl⟩, _, ⟨stated, rfl⟩, rfl⟩
    exact ⟨rfl, rfl, rfl, rfl, filled, finite, lasts, stated⟩
  · rintro ⟨type, value, duration, source, filled, finite, lasts, stated⟩
    rw [type, value, duration, source]
    exact ⟨true, finite, (), rfl, (), lasts, _, ⟨filled, rfl⟩, _, ⟨stated, rfl⟩, rfl⟩

theorem ReadsEffect.sound {fields : Table Value} {effect : StatusEffect}
    (reads : ReadsEffect fields effect) : effect.Sound :=
  ⟨Value.isFilledText_text reads.filled, (Value.isFiniteNumber_eq_ok.mp reads.finite).1,
    StatusEffect.lasts_of_check reads.lasts, reads.stated⟩

private theorem forall₂_map_of_exists {α β γ : Type} {wrap : β → γ} {relates : α → β → Prop}
    {items : List α} {results : List γ}
    (each : List.Forall₂ (fun item result => ∃ entry, result = wrap entry ∧ relates item entry) items results) :
    ∃ entries, results = List.map wrap entries ∧ List.Forall₂ relates items entries := by
  induction each with
  | nil => exact ⟨[], rfl, .nil⟩
  | cons head _ ih =>
    obtain ⟨entry, rfl, first⟩ := head
    obtain ⟨entries, rfl, rest⟩ := ih
    exact ⟨entry :: entries, rfl, .cons first rest⟩

theorem readEntries_items {α : Type} {field : String} {read : String → Table Value → Outcome α}
    {value : Value} {entries : Loose (List (Loose α))} (ok : readEntries field read value = .ok entries) :
    ∃ list : List α, entries = .known (list.map .known) ∧
      List.Forall₂ (fun item entry => ∃ place, read place (item.fields?.getD []) = .ok entry)
        (value.items?.getD []) list := by
  unfold readEntries at ok
  split at ok
  · cases ok
    exact ⟨[], rfl, .nil⟩
  · rename_i items
    obtain ⟨found, each, rest⟩ := bind_eq_ok.mp ok
    obtain rfl := pure_eq_ok.mp rest
    have placed : List.Forall₂ (fun placed result => ∃ entry, result = Loose.known entry ∧
        ∃ place, read place (placed.1.fields?.getD []) = .ok entry) items.zipIdx found := by
      refine (mapM_eq_ok.mp each).imp ?_
      rintro ⟨item, index⟩ result one
      cases item with
      | object fields =>
        obtain ⟨entry, known, rest⟩ := bind_eq_ok.mp one
        exact ⟨entry, (pure_eq_ok.mp rest).symm, _, known⟩
      | _ => cases one
    obtain ⟨list, rfl, reads⟩ := forall₂_map_of_exists placed
    refine ⟨list, rfl, ?_⟩
    rw [Value.items?, Option.getD_some, ← List.zipIdx_map_fst 0 items]
    exact List.forall₂_map_left_iff.mpr reads
  · cases ok

theorem readEntries_all {α : Type} {field : String} {read : String → Table Value → Outcome α}
    {good : α → Prop} (each : ∀ place fields entry, read place fields = .ok entry → good entry)
    {value : Value} {list : List α} (ok : readEntries field read value = .ok (.known (list.map .known))) :
    ∀ entry ∈ list, good entry := by
  obtain ⟨other, same, items⟩ := readEntries_items ok
  obtain rfl := Loose.map_known_injective (Loose.known.inj same)
  intro entry member
  obtain ⟨item, _, place, found⟩ := source_of_forall₂ items member
  exact each _ _ _ found

/-- What a state takes from the fields of a document. -/
structure Reads [Host] (fields : Table Value) (state : GameState) : Prop where
  version : ((fields.get? "version").getD (.int version)).equals (.int version) = true
  player : readText "playerId" ((fields.get? "playerId").getD (Value.field fields "userId")) =
    .ok state.playerId
  story : readText "storyId" (Value.field fields "storyId") = .ok state.storyId
  save : readText "saveId" (Value.field fields "saveId") = .ok state.saveId
  node : readText "currentNodeId" (Value.field fields "currentNodeId") = .ok state.currentNodeId
  visits : readVisited (Value.field fields "visitedNodes") = .ok state.visitedNodes
  history : readEntries "choicesHistory" readRecord (Value.field fields "choicesHistory") =
    .ok state.choicesHistory
  stats : readTable "stats" (Value.field fields "stats") = .ok state.stats
  wallets : readTable "wallets" (Value.field fields "wallets") = .ok state.wallets
  inventory : readTable "inventory" (Value.field fields "inventory") = .ok state.inventory
  flags : readFlags "flags" (Value.field fields "flags") = .ok state.flags
  effects : readEntries "statusEffects" readEffect (Value.field fields "statusEffects") =
    .ok state.statusEffects
  created : readTimestamp "createdAt" (Value.field fields "createdAt") = .ok state.createdAt
  updated : readTimestamp "updatedAt" (Value.field fields "updatedAt") = .ok state.updatedAt
  seed : readOptionalText "seed" (Value.field fields "seed") = .ok state.seed

theorem readFields_eq_ok [Host] {fields : Table Value} {state : GameState} :
    readFields fields = .ok state ↔ Reads fields state := by
  constructor
  · intro ok
    obtain ⟨_, version, ok⟩ := bind_eq_ok.mp ok
    obtain ⟨_, player, ok⟩ := bind_eq_ok.mp ok
    obtain ⟨_, story, ok⟩ := bind_eq_ok.mp ok
    obtain ⟨_, save, ok⟩ := bind_eq_ok.mp ok
    obtain ⟨_, node, ok⟩ := bind_eq_ok.mp ok
    obtain ⟨_, visits, ok⟩ := bind_eq_ok.mp ok
    obtain ⟨_, history, ok⟩ := bind_eq_ok.mp ok
    obtain ⟨_, stats, ok⟩ := bind_eq_ok.mp ok
    obtain ⟨_, wallets, ok⟩ := bind_eq_ok.mp ok
    obtain ⟨_, inventory, ok⟩ := bind_eq_ok.mp ok
    obtain ⟨_, flags, ok⟩ := bind_eq_ok.mp ok
    obtain ⟨_, effects, ok⟩ := bind_eq_ok.mp ok
    obtain ⟨_, created, ok⟩ := bind_eq_ok.mp ok
    obtain ⟨_, updated, ok⟩ := bind_eq_ok.mp ok
    obtain ⟨_, seed, ok⟩ := bind_eq_ok.mp ok
    obtain rfl := pure_eq_ok.mp ok
    exact ⟨requireOf_eq_ok.mp version, player, story, save, node, visits, history, stats, wallets,
      inventory, flags, effects, created, updated, seed⟩
  · intro reads
    refine bind_eq_ok.mpr ⟨(), requireOf_eq_ok.mpr reads.version, bind_eq_ok.mpr ⟨_, reads.player, ?_⟩⟩
    refine bind_eq_ok.mpr ⟨_, reads.story, bind_eq_ok.mpr ⟨_, reads.save, ?_⟩⟩
    refine bind_eq_ok.mpr ⟨_, reads.node, bind_eq_ok.mpr ⟨_, reads.visits, ?_⟩⟩
    refine bind_eq_ok.mpr ⟨_, reads.history, bind_eq_ok.mpr ⟨_, reads.stats, ?_⟩⟩
    refine bind_eq_ok.mpr ⟨_, reads.wallets, bind_eq_ok.mpr ⟨_, reads.inventory, ?_⟩⟩
    refine bind_eq_ok.mpr ⟨_, reads.flags, bind_eq_ok.mpr ⟨_, reads.effects, ?_⟩⟩
    refine bind_eq_ok.mpr ⟨_, reads.created, bind_eq_ok.mpr ⟨_, reads.updated, ?_⟩⟩
    exact bind_eq_ok.mpr ⟨_, reads.seed, rfl⟩

theorem Reads.sound [Host] {fields : Table Value} {contents : GameState.Contents}
    (valid : contents.Valid) (reads : Reads fields contents.state) : contents.Sound where
  visits := readVisited_texts reads.visits
  visited := valid.visited
  history := readEntries_all (fun _ _ _ read => (readRecord_eq_ok.mp read).sound) reads.history
  stats := fun entry member => ⟨readTable_names reads.stats entry member,
    (Value.isAtLeast_eq_ok.mp (valid.stats entry member)).1⟩
  wallets := fun entry member => ⟨readTable_names reads.wallets entry member,
    (Value.isAtLeast_eq_ok.mp (valid.wallets entry member)).1⟩
  inventory := fun entry member => ⟨readTable_names reads.inventory entry member,
    (Value.isAtLeast_eq_ok.mp (valid.inventory entry member)).1⟩
  flags := readTable_names (readFlags_eq_ok reads.flags).1
  effects := readEntries_all (fun _ _ _ read => (readEffect_eq_ok.mp read).sound) reads.effects
  seed := by
    obtain ⟨optional, same⟩ := readOptionalText_eq_ok.mp reads.seed
    have seed : Value.field fields "seed" = contents.seed := same
    exact seed ▸ optional

theorem restore_object_eq_ok [Host] {fields : Table Value} {state : GameState} :
    restore (.object fields) = .ok state ↔
      ∃ contents : GameState.Contents, state = contents.state ∧ contents.Valid ∧
        Reads fields contents.state := by
  refine bind_eq_ok.trans ?_
  simp only [bind_eq_ok, pure_eq_ok, readFields_eq_ok, GameState.validate_eq_ok]
  constructor
  · rintro ⟨_, reads, _, ⟨contents, rfl, valid⟩, rfl⟩
    exact ⟨contents, rfl, valid, reads⟩
  · rintro ⟨contents, rfl, valid, reads⟩
    exact ⟨_, reads, (), ⟨contents, rfl, valid⟩, rfl⟩

theorem object_of_restore [Host] {document : Value} {state : GameState}
    (ok : restore document = .ok state) : ∃ fields, document = .object fields := by
  cases document with
  | object fields => exact ⟨fields, rfl⟩
  | _ => cases ok

theorem restore_eq_ok [Host] {document : Value} {state : GameState}
    (ok : restore document = .ok state) :
    ∃ contents : GameState.Contents, state = contents.state ∧ contents.Valid ∧ contents.Sound := by
  obtain ⟨fields, rfl⟩ := object_of_restore ok
  obtain ⟨contents, rfl, valid, reads⟩ := restore_object_eq_ok.mp ok
  exact ⟨contents, rfl, valid, reads.sound valid⟩

end Snapshot
end Gamebook
