import Gamebook.Proofs.State.Refusing
import Gamebook.Proofs.State.Restoring

/-!
Documents at which restoring stops without a refusal: at a version that cannot be shown, at flags that
cannot be copied, and at the first entry whose number is past all doubles or that cannot be shown.
-/
namespace Gamebook

/-- A field that is not as it should be. -/
inductive Failure.IsNamed : Failure → Prop
  | field (name : String) (problem : StateProblem) : IsNamed (.state name problem)

open Failure (IsNamed)

/-- What only ever refuses does not stop a sequence. -/
theorem next_of_fault {α β : Type} {first : Outcome α} {next : α → Outcome β} {fault : Fault}
    (calm : FailsBy IsNamed first) (failed : (first >>= next) = .error (.fault fault)) :
    ∃ value, first = .ok value ∧ next value = .error (.fault fault) := by
  rcases bind_eq_error.mp failed with here | later
  · cases calm _ here
  · exact later

theorem no_fault {α : Type} {outcome : Outcome α} {fault : Fault} (calm : FailsBy IsNamed outcome) :
    outcome ≠ .error (.fault fault) := by
  intro failed
  cases calm _ failed

theorem requireOf_eq_fault {holds : Bool} {shown : List Value} {field : String}
    {problem : StateProblem} {fault : Fault} :
    requireOf holds shown field problem = .error (.fault fault) ↔
      holds = false ∧ shown.all Value.isWritable = false ∧ fault = .badValue := by
  unfold requireOf
  cases holds with
  | true => simp
  | false => cases shown.all Value.isWritable <;> simp [invalid, eq_comm]

namespace Value

theorem sized_int {whole : Int} : (int whole).Sized ↔ (Double.ofInt? whole).isSome = true := by
  constructor
  · exact fun sized => sized whole rfl
  · rintro fits _ ⟨⟩
    exact fits

theorem sized_of_number?_none {value : Value} (other : value.number? = none) : value.Sized := by
  rintro whole rfl
  cases other

theorem isFinite_eq_error {number : Number} {fault : Fault} :
    number.isFinite = .error fault ↔ ¬ number.toValue.Sized ∧ fault = .tooLarge := by
  cases number with
  | int whole =>
    rw [Number.isFinite, Number.toValue, sized_int]
    cases Double.ofInt? whole <;> simp [eq_comm]
  | real x =>
    have sized : (Number.real x).toValue.Sized := by rintro _ ⟨⟩
    simp [Number.isFinite, sized]

theorem isAtLeast_eq_error {least : Int} {value : Value} {fault : Fault} :
    value.isAtLeast least = .error fault ↔ ¬ value.Sized ∧ fault = .tooLarge := by
  unfold isAtLeast
  cases found : value.number? with
  | none => simp [sized_of_number?_none found]
  | some number =>
    obtain rfl := number?_eq_some.mp found
    rw [← isFinite_eq_error]
    refine bind_eq_error.trans (or_iff_left ?_)
    rintro ⟨_, _, ⟨⟩⟩

end Value

/-- The first entry that is not a number from `least` on is one that cannot be looked at or
shown. -/
inductive Dict.Stops (least : Int) : Dict → Fault → Prop
  | tooLarge {key value : Value} {rest : Dict} (large : ¬ value.Sized) :
      Stops least ((key, value) :: rest) .tooLarge
  | tooLong {key value : Value} {rest : Dict} (fails : value.isAtLeast least = .ok false)
      (long : [key, value].all Value.isWritable = false) : Stops least ((key, value) :: rest) .badValue
  | later {entry : Value × Value} {rest : Dict} {fault : Fault}
      (fine : entry.2.isAtLeast least = .ok true) (stops : Stops least rest fault) :
      Stops least (entry :: rest) fault

namespace GameState

theorem checkTable_eq_fault {field : String} {least : Int} {problem : Value → StateProblem}
    {table : Dict} {fault : Fault} : checkTable field least problem table = .error (.fault fault) ↔
      table.Stops least fault := by
  induction table with
  | nil => exact ⟨nofun, nofun⟩
  | cons entry table ih =>
    rw [checkTable]
    constructor
    · intro failed
      rcases bind_eq_error.mp failed with unmeasured | ⟨holds, measured, failed⟩
      · obtain ⟨_, found, same⟩ := Fault.lift_eq_error.mp unmeasured
        obtain ⟨large, rfl⟩ := Value.isAtLeast_eq_error.mp found
        cases same
        exact .tooLarge large
      · rcases bind_eq_error.mp failed with refused | ⟨_, accepted, failed⟩
        · obtain ⟨rfl, long, rfl⟩ := requireOf_eq_fault.mp refused
          exact .tooLong (Fault.lift_eq_ok.mp measured) long
        · obtain rfl := requireOf_eq_ok.mp accepted
          exact .later (Fault.lift_eq_ok.mp measured) (ih.mp failed)
    · rintro (large | ⟨fails, long⟩ | ⟨fine, stops⟩)
      · refine bind_eq_error.mpr (.inl (Fault.lift_eq_error.mpr ⟨_, ?_, rfl⟩))
        exact Value.isAtLeast_eq_error.mpr ⟨large, rfl⟩
      · refine bind_eq_error.mpr (.inr ⟨false, Fault.lift_eq_ok.mpr fails, ?_⟩)
        exact bind_eq_error.mpr (.inl (requireOf_eq_fault.mpr ⟨rfl, long, rfl⟩))
      · refine bind_eq_error.mpr (.inr ⟨true, Fault.lift_eq_ok.mpr fine, ?_⟩)
        exact bind_eq_error.mpr (.inr ⟨(), rfl, ih.mpr stops⟩)

/-- The first of the tables that has a wrong entry has one at which its check stops. -/
inductive Contents.Stops (contents : Contents) : Fault → Prop
  | stats {fault : Fault} (stops : contents.stats.Stops 1 fault) : Stops contents fault
  | wallets {fault : Fault} (stats : ∀ entry ∈ contents.stats, entry.2.isAtLeast 1 = .ok true)
      (stops : contents.wallets.Stops 0 fault) : Stops contents fault
  | inventory {fault : Fault} (stats : ∀ entry ∈ contents.stats, entry.2.isAtLeast 1 = .ok true)
      (wallets : ∀ entry ∈ contents.wallets, entry.2.isAtLeast 0 = .ok true)
      (stops : contents.inventory.Stops 0 fault) : Stops contents fault

theorem checkContents_eq_fault {contents : Contents} {fault : Fault} :
    contents.state.checkContents = .error (.fault fault) ↔ contents.Stops fault := by
  have unfolded : contents.state.checkContents = (do
      checkTable "stats" 1 .stat contents.stats
      checkTable "wallets" 0 .balance contents.wallets
      checkTable "inventory" 0 .quantity contents.inventory
      checkEffects 0 (contents.effects.map .known)
      checkHistory 0 (contents.history.map .known)
      checkTimestamp "created_at" (.known contents.created)
      checkTimestamp "updated_at" (.known contents.updated)
      require (Value.isAmong (.text contents.node) contents.visits) "visited_nodes"
        (.currentNotVisited (.text contents.node))) := rfl
  rw [unfolded]
  constructor
  · intro failed
    rcases bind_eq_error.mp failed with here | ⟨_, stats, failed⟩
    · exact .stats (checkTable_eq_fault.mp here)
    rcases bind_eq_error.mp failed with here | ⟨_, wallets, failed⟩
    · exact .wallets (checkTable_eq_ok.mp stats) (checkTable_eq_fault.mp here)
    rcases bind_eq_error.mp failed with here | ⟨_, _, failed⟩
    · exact .inventory (checkTable_eq_ok.mp stats) (checkTable_eq_ok.mp wallets)
        (checkTable_eq_fault.mp here)
    -- After the tables there is nothing left that does more than refuse.
    refine absurd failed (no_fault ?_)
    refine failsBy_bind (checkEffects_fails .field _ _) fun _ _ => ?_
    refine failsBy_bind (checkHistory_fails .field _ _) fun _ _ => ?_
    refine failsBy_bind (checkTimestamp_fails .field _ _) fun _ _ => ?_
    exact failsBy_bind (checkTimestamp_fails .field _ _) fun _ _ => failsBy_require .field _ _ _
  · rintro (stops | ⟨stats, stops⟩ | ⟨stats, wallets, stops⟩)
    · exact bind_eq_error.mpr (.inl (checkTable_eq_fault.mpr stops))
    · refine bind_eq_error.mpr (.inr ⟨(), checkTable_eq_ok.mpr stats, ?_⟩)
      exact bind_eq_error.mpr (.inl (checkTable_eq_fault.mpr stops))
    · refine bind_eq_error.mpr (.inr ⟨(), checkTable_eq_ok.mpr stats, ?_⟩)
      refine bind_eq_error.mpr (.inr ⟨(), checkTable_eq_ok.mpr wallets, ?_⟩)
      exact bind_eq_error.mpr (.inl (checkTable_eq_fault.mpr stops))

end GameState

namespace Snapshot

theorem text_of_readText {field : String} {value entry : Value} (ok : readText field value = .ok entry) :
    ∃ text, entry = .text text ∧ text ≠ "" := by
  obtain ⟨filled, rfl⟩ := readText_eq_ok.mp ok
  exact Value.isFilledText_iff.mp filled

theorem Reads.contents [Host] {fields : Table Value} {state : GameState}
    (reads : Reads fields state) :
    ∃ contents : GameState.Contents, state = contents.state ∧ state.checkIdentity = .ok () := by
  obtain ⟨player, playerIs, namesPlayer⟩ := text_of_readText reads.player
  obtain ⟨story, storyIs, namesStory⟩ := text_of_readText reads.story
  obtain ⟨save, saveIs, namesSave⟩ := text_of_readText reads.save
  obtain ⟨node, nodeIs, namesNode⟩ := text_of_readText reads.node
  obtain ⟨visits, visitsAre⟩ : ∃ visits, state.visitedNodes = .known visits :=
    ⟨_, readVisited_items reads.visits⟩
  obtain ⟨history, historyIs, _⟩ := readEntries_items reads.history
  obtain ⟨stats, statsAre⟩ : ∃ stats, state.stats = .known stats := ⟨_, readTable_fields reads.stats⟩
  obtain ⟨wallets, walletsAre⟩ : ∃ wallets, state.wallets = .known wallets :=
    ⟨_, readTable_fields reads.wallets⟩
  obtain ⟨inventory, inventoryIs⟩ : ∃ inventory, state.inventory = .known inventory :=
    ⟨_, readTable_fields reads.inventory⟩
  obtain ⟨flags, flagsAre⟩ : ∃ flags, state.flags = .known flags :=
    ⟨_, readTable_fields (readFlags_eq_ok reads.flags).1⟩
  obtain ⟨effects, effectsAre, _⟩ := readEntries_items reads.effects
  obtain ⟨_, created, _, _, createdIs⟩ := readTimestamp_eq_ok.mp reads.created
  obtain ⟨_, updated, _, _, updatedIs⟩ := readTimestamp_eq_ok.mp reads.updated
  refine ⟨⟨player, story, save, node, visits, history, stats, wallets, inventory, flags, effects,
    created, updated, state.seed⟩, ?_, ?_⟩
  · simp only [GameState.Contents.state, ← playerIs, ← storyIs, ← saveIs, ← nodeIs, ← visitsAre,
      ← historyIs, ← statsAre, ← walletsAre, ← inventoryIs, ← flagsAre, ← effectsAre, ← createdIs,
      ← updatedIs]
  · rw [GameState.checkIdentity_eq_ok]
    simp only [Value.isFilledText_iff]
    exact ⟨⟨_, playerIs, namesPlayer⟩, ⟨_, storyIs, namesStory⟩, ⟨_, saveIs, namesSave⟩,
      ⟨_, nodeIs, namesNode⟩⟩

theorem isFiniteNumber_eq_error {value : Value} {fault : Fault} :
    isFiniteNumber value = .error fault ↔ ¬ value.Sized ∧ fault = .tooLarge := by
  unfold isFiniteNumber
  cases found : value.number? with
  | none => simp [Value.sized_of_number?_none found]
  | some number =>
    obtain rfl := Value.number?_eq_some.mp found
    exact Value.isFinite_eq_error

theorem readEffect_eq_fault {place : String} {fields : Table Value} {fault : Fault} :
    readEffect place fields = .error (.fault fault) ↔
      ¬ ((fields.get? "value").getD (.int 0)).Sized ∧ fault = .tooLarge := by
  rw [← isFiniteNumber_eq_error]
  constructor
  · intro failed
    rcases bind_eq_error.mp failed with here | ⟨_, _, failed⟩
    · obtain ⟨_, unmeasured, same⟩ := Fault.lift_eq_error.mp here
      exact Failure.fault.inj same ▸ unmeasured
    · refine absurd failed (no_fault ?_)
      refine failsBy_bind (failsBy_require .field _ _ _) fun _ _ => ?_
      refine failsBy_bind (failsBy_require .field _ _ _) fun _ _ => ?_
      refine failsBy_bind (readText_fails .field _ _) fun _ _ => ?_
      exact failsBy_bind (readOptionalText_fails .field _ _) fun _ _ => failsBy_ok _
  · intro unmeasured
    exact bind_eq_error.mpr (.inl (Fault.lift_eq_error.mpr ⟨_, unmeasured, rfl⟩))

/-- The first item that is no status effect has a value past all doubles. -/
inductive EffectsStop : List Value → Prop
  | here {fields : Table Value} {items : List Value}
      (large : ¬ ((fields.get? "value").getD (.int 0)).Sized) : EffectsStop (.object fields :: items)
  | later {fields : Table Value} {effect : StatusEffect} {items : List Value}
      (reads : ReadsEffect fields effect) (stops : EffectsStop items) :
      EffectsStop (.object fields :: items)

private theorem mapM_eq_fault {step : Value × Nat → Outcome (Loose StatusEffect)} {fault : Fault}
    (objects : ∀ fields index, ∃ place,
      step (.object fields, index) = do return .known (← readEffect place fields))
    (others : ∀ item index, item.fields? = none →
      ∃ place problem, step (item, index) = invalid place problem) (items : List Value) (index : Nat) :
    (items.zipIdx index).mapM step = .error (.fault fault) ↔ EffectsStop items ∧ fault = .tooLarge := by
  induction items generalizing index with
  | nil => exact ⟨nofun, fun stops => nomatch stops.1⟩
  | cons item items ih =>
    rw [List.zipIdx_cons, List.mapM_cons]
    constructor
    · intro failed
      cases found : item.fields? with
      | none =>
        obtain ⟨place, problem, same⟩ := others item index found
        rw [same] at failed
        cases failed
      | some fields =>
        obtain rfl : item = .object fields := by cases item <;> cases found; rfl
        obtain ⟨place, same⟩ := objects fields index
        rw [same] at failed
        rcases bind_eq_error.mp failed with here | ⟨_, read, failed⟩
        · rcases bind_eq_error.mp here with here | ⟨_, _, ⟨⟩⟩
          obtain ⟨large, rfl⟩ := readEffect_eq_fault.mp here
          exact ⟨.here large, rfl⟩
        · rcases bind_eq_error.mp failed with later | ⟨_, _, ⟨⟩⟩
          obtain ⟨effect, read, _⟩ := bind_eq_ok.mp read
          obtain ⟨stops, rfl⟩ := (ih (index + 1)).mp later
          exact ⟨.later (readEffect_eq_ok.mp read) stops, rfl⟩
    · rintro ⟨stops, rfl⟩
      cases stops with
      | here large =>
        obtain ⟨place, same⟩ := objects _ index
        rw [same]
        refine bind_eq_error.mpr (.inl (bind_eq_error.mpr (.inl ?_)))
        exact readEffect_eq_fault.mpr ⟨large, rfl⟩
      | later reads stops =>
        obtain ⟨place, same⟩ := objects _ index
        rw [same]
        refine bind_eq_error.mpr (.inr ⟨_, bind_eq_ok.mpr ⟨_, readEffect_eq_ok.mpr reads, rfl⟩, ?_⟩)
        exact bind_eq_error.mpr (.inl ((ih (index + 1)).mpr ⟨stops, rfl⟩))

theorem readEffects_eq_fault {value : Value} {fault : Fault} :
    readEntries "statusEffects" readEffect value = .error (.fault fault) ↔
      ∃ items, value = .list items ∧ EffectsStop items ∧ fault = .tooLarge := by
  cases value with
  | list items =>
    refine (bind_eq_error.trans (or_iff_left (by rintro ⟨_, _, ⟨⟩⟩))).trans ?_
    refine (mapM_eq_fault (fun fields index => ⟨_, rfl⟩) (fun item index other => ?_) items 0).trans ?_
    · cases item <;> first | exact ⟨_, _, rfl⟩ | cases other
    · simp
  | _ => exact ⟨nofun, by rintro ⟨_, ⟨⟩, _⟩⟩

theorem readFlags_eq_fault [Host] {value : Value} {fault : Fault} :
    readFlags "flags" value = .error (.fault fault) ↔
      ∃ flags, readTable "flags" value = .ok flags ∧ Host.copying < flags.depth ∧
        fault = .tooDeep := by
  constructor
  · intro failed
    obtain ⟨flags, read, failed⟩ := next_of_fault (readTable_fails .field _ _) failed
    obtain ⟨_, uncopied, same⟩ := Fault.lift_eq_error.mp failed
    obtain rfl := Failure.fault.inj same
    unfold Loose.copied at uncopied
    split at uncopied
    · cases uncopied
    · rename_i deep
      cases uncopied
      exact ⟨flags, read, Nat.lt_of_not_le deep, rfl⟩
  · rintro ⟨flags, read, deep, rfl⟩
    refine bind_eq_error.mpr (.inr ⟨flags, read, Fault.lift_eq_error.mpr ⟨_, ?_, rfl⟩⟩)
    exact if_neg (Nat.not_le.mpr deep)

/-- What is read before the flags is as it should be. -/
structure Opens (fields : Table Value) : Prop where
  version : ((fields.get? "version").getD (.int version)).equals (.int version) = true
  player : ((fields.get? "playerId").getD (Value.field fields "userId")).isFilledText = true
  story : (Value.field fields "storyId").isFilledText = true
  save : (Value.field fields "saveId").isFilledText = true
  node : (Value.field fields "currentNodeId").isFilledText = true
  visits : ∃ visits, readVisited (Value.field fields "visitedNodes") = .ok visits
  history : ∃ history,
    readEntries "choicesHistory" readRecord (Value.field fields "choicesHistory") = .ok history
  stats : ∃ stats, readTable "stats" (Value.field fields "stats") = .ok stats
  wallets : ∃ wallets, readTable "wallets" (Value.field fields "wallets") = .ok wallets
  inventory : ∃ inventory, readTable "inventory" (Value.field fields "inventory") = .ok inventory

/-- The ways in which a document can stop its own restoring. -/
inductive Stops [Host] (fields : Table Value) : Fault → Prop
  | version (other : ((fields.get? "version").getD (.int version)).equals (.int version) = false)
      (long : ((fields.get? "version").getD (.int version)).isWritable = false) :
      Stops fields .badValue
  | flags {flags : Loose Dict} (opens : Opens fields)
      (read : readTable "flags" (Value.field fields "flags") = .ok flags)
      (deep : Host.copying < flags.depth) : Stops fields .tooDeep
  | effects {flags : Loose Dict} {items : List Value} (opens : Opens fields)
      (read : readFlags "flags" (Value.field fields "flags") = .ok flags)
      (list : Value.field fields "statusEffects" = .list items) (stops : EffectsStop items) :
      Stops fields .tooLarge
  | entries {contents : GameState.Contents} {fault : Fault} (reads : Reads fields contents.state)
      (stops : contents.Stops fault) : Stops fields fault

variable {fields : Table Value} {fault : Fault}

theorem readFields_eq_fault [Host] : readFields fields = .error (.fault fault) ↔
    (let found := (fields.get? "version").getD (.int version)
     requireOf (found.equals (.int version)) [found] "version" (.version found)) =
        .error (.fault fault) ∨
      Opens fields ∧ (readFlags "flags" (Value.field fields "flags") = .error (.fault fault) ∨
        ∃ flags, readFlags "flags" (Value.field fields "flags") = .ok flags ∧
          readEntries "statusEffects" readEffect (Value.field fields "statusEffects") =
            .error (.fault fault)) := by
  constructor
  · intro failed
    rcases bind_eq_error.mp failed with here | ⟨_, version, failed⟩
    · exact .inl here
    obtain ⟨_, player, failed⟩ := next_of_fault (readText_fails .field _ _) failed
    obtain ⟨_, story, failed⟩ := next_of_fault (readText_fails .field _ _) failed
    obtain ⟨_, save, failed⟩ := next_of_fault (readText_fails .field _ _) failed
    obtain ⟨_, node, failed⟩ := next_of_fault (readText_fails .field _ _) failed
    obtain ⟨_, visits, failed⟩ := next_of_fault (readVisited_fails .field _) failed
    obtain ⟨_, history, failed⟩ :=
      next_of_fault (readEntries_fails .field (readRecord_fails .field) _) failed
    obtain ⟨_, stats, failed⟩ := next_of_fault (readTable_fails .field _ _) failed
    obtain ⟨_, wallets, failed⟩ := next_of_fault (readTable_fails .field _ _) failed
    obtain ⟨_, inventory, failed⟩ := next_of_fault (readTable_fails .field _ _) failed
    refine .inr ⟨⟨requireOf_eq_ok.mp version, (readText_eq_ok.mp player).1, (readText_eq_ok.mp story).1,
      (readText_eq_ok.mp save).1, (readText_eq_ok.mp node).1, ⟨_, visits⟩, ⟨_, history⟩, ⟨_, stats⟩,
      ⟨_, wallets⟩, ⟨_, inventory⟩⟩, ?_⟩
    rcases bind_eq_error.mp failed with here | ⟨_, flags, failed⟩
    · exact .inl here
    rcases bind_eq_error.mp failed with here | ⟨_, _, failed⟩
    · exact .inr ⟨_, flags, here⟩
    refine absurd failed (no_fault ?_)
    refine failsBy_bind (readTimestamp_fails .field _ _) fun _ _ => ?_
    refine failsBy_bind (readTimestamp_fails .field _ _) fun _ _ => ?_
    exact failsBy_bind (readOptionalText_fails .field _ _) fun _ _ => failsBy_ok _
  · rintro (here | ⟨opens, stopped⟩)
    · exact bind_eq_error.mpr (.inl here)
    obtain ⟨_, visits⟩ := opens.visits
    obtain ⟨_, history⟩ := opens.history
    obtain ⟨_, stats⟩ := opens.stats
    obtain ⟨_, wallets⟩ := opens.wallets
    obtain ⟨_, inventory⟩ := opens.inventory
    refine bind_eq_error.mpr (.inr ⟨(), requireOf_eq_ok.mpr opens.version, ?_⟩)
    refine bind_eq_error.mpr (.inr ⟨_, readText_eq_ok.mpr ⟨opens.player, rfl⟩, ?_⟩)
    refine bind_eq_error.mpr (.inr ⟨_, readText_eq_ok.mpr ⟨opens.story, rfl⟩, ?_⟩)
    refine bind_eq_error.mpr (.inr ⟨_, readText_eq_ok.mpr ⟨opens.save, rfl⟩, ?_⟩)
    refine bind_eq_error.mpr (.inr ⟨_, readText_eq_ok.mpr ⟨opens.node, rfl⟩, ?_⟩)
    refine bind_eq_error.mpr (.inr ⟨_, visits, bind_eq_error.mpr (.inr ⟨_, history, ?_⟩)⟩)
    refine bind_eq_error.mpr (.inr ⟨_, stats, bind_eq_error.mpr (.inr ⟨_, wallets, ?_⟩)⟩)
    refine bind_eq_error.mpr (.inr ⟨_, inventory, ?_⟩)
    rcases stopped with here | ⟨_, flags, here⟩
    · exact bind_eq_error.mpr (.inl here)
    · exact bind_eq_error.mpr (.inr ⟨_, flags, bind_eq_error.mpr (.inl here)⟩)

theorem Reads.validate_eq_fault [Host] {state : GameState} (reads : Reads fields state) :
    state.validate = .error (.fault fault) ↔
      ∃ contents : GameState.Contents, state = contents.state ∧ contents.Stops fault := by
  obtain ⟨contents, rfl, identity⟩ := reads.contents
  rw [GameState.validate, identity]
  refine GameState.checkContents_eq_fault.trans ⟨fun stops => ⟨contents, rfl, stops⟩, ?_⟩
  rintro ⟨other, same, stops⟩
  rw [← GameState.checkContents_eq_fault, ← same] at stops
  exact GameState.checkContents_eq_fault.mp stops

theorem restore_eq_fault [Host] :
    restore (.object fields) = .error (.fault fault) ↔ Stops fields fault := by
  constructor
  · intro failed
    rcases bind_eq_error.mp failed with here | ⟨state, read, failed⟩
    · rcases readFields_eq_fault.mp here with refused | ⟨opens, uncopied | ⟨flags, read, stopped⟩⟩
      · obtain ⟨other, long, rfl⟩ := requireOf_eq_fault.mp refused
        exact .version other (by simpa using long)
      · obtain ⟨flags, read, deep, rfl⟩ := readFlags_eq_fault.mp uncopied
        exact .flags opens read deep
      · obtain ⟨items, list, stops, rfl⟩ := readEffects_eq_fault.mp stopped
        exact .effects opens read list stops
    · have reads := readFields_eq_ok.mp read
      rcases bind_eq_error.mp failed with stopped | ⟨_, _, ⟨⟩⟩
      obtain ⟨contents, rfl, stops⟩ := reads.validate_eq_fault.mp stopped
      exact .entries reads stops
  · intro stops
    refine bind_eq_error.mpr ?_
    cases stops with
    | version other long =>
      refine .inl (readFields_eq_fault.mpr (.inl (requireOf_eq_fault.mpr ⟨other, ?_, rfl⟩)))
      simpa using long
    | flags opens read deep =>
      have uncopied := readFlags_eq_fault.mpr ⟨_, read, deep, rfl⟩
      exact .inl (readFields_eq_fault.mpr (.inr ⟨opens, .inl uncopied⟩))
    | effects opens read list stops =>
      have stopped := readEffects_eq_fault.mpr ⟨_, list, stops, rfl⟩
      exact .inl (readFields_eq_fault.mpr (.inr ⟨opens, .inr ⟨_, read, stopped⟩⟩))
    | entries reads stops =>
      have stopped := reads.validate_eq_fault.mpr ⟨_, rfl, stops⟩
      exact .inr ⟨_, readFields_eq_ok.mpr reads, bind_eq_error.mpr (.inl stopped)⟩

theorem stops_of_restore [Host] {document : Value} {fault : Fault}
    (failed : restore document = .error (.fault fault)) :
    ∃ fields, document = .object fields ∧ Stops fields fault := by
  cases document with
  | object fields => exact ⟨fields, rfl, restore_eq_fault.mp failed⟩
  | _ => cases failed

/-- What restoring comes to, whatever the document: a valid state, a refusal that names a field, or
a stop, and that only at the documents that are known to stop it. -/
theorem restore_outcomes [Host] (document : Value) :
    (∀ state, restore document = .ok state → state.validate = .ok ()) ∧
    (∀ failure, restore document = .error failure → (∃ field problem, failure = .state field problem) ∨
      ∃ fields fault, document = .object fields ∧ failure = .fault fault ∧ Stops fields fault) ∧
    ∀ fields fault, document = .object fields → Stops fields fault →
      restore document = .error (.fault fault) := by
  refine ⟨fun state ok => ?_, fun failure failed => ?_, ?_⟩
  · obtain ⟨contents, rfl, valid, _⟩ := restore_eq_ok ok
    exact GameState.validate_eq_ok.mpr ⟨contents, rfl, valid⟩
  · have stopped (fault : Fault) (same : failure = .fault fault) :
        ∃ fields fault, document = .object fields ∧ failure = .fault fault ∧ Stops fields fault := by
      obtain ⟨fields, object, stops⟩ := stops_of_restore (same ▸ failed)
      exact ⟨fields, fault, object, same, stops⟩
    cases restore_fails document failure failed with
    | field name problem => exact .inl ⟨name, problem, rfl⟩
    | tooLarge => exact .inr (stopped _ rfl)
    | tooDeep => exact .inr (stopped _ rfl)
    | tooLong => exact .inr (stopped _ rfl)
  · rintro fields fault rfl stops
    exact restore_eq_fault.mpr stops

/-- The save of a player whose luck is past all doubles. -/
def luckyDocument : Table Value := [
  ("version", .int 1), ("playerId", .text "sailor"), ("storyId", .text "harbour"),
  ("saveId", .text "first"), ("currentNodeId", .text "pier"), ("visitedNodes", .list [.text "pier"]),
  ("stats", .object [("luck", .int (10 ^ 400))]),
  ("createdAt", .text "2024-05-01T08:00:00Z"), ("updatedAt", .text "2024-05-01T08:00:00Z")]

open scoped Host in
theorem restore_outcomes_lucky : ∃ fault,
    restore (.object luckyDocument) = .error (.fault fault) ∧ Stops luckyDocument fault := by
  have unforeseen : ((restore (.object luckyDocument)).mapError Failure.isForeseen).map (fun _ => ()) =
      .error false := by decide +kernel
  cases failed : restore (.object luckyDocument) with
  | ok state =>
    rw [failed] at unforeseen
    cases unforeseen
  | error failure =>
    rcases (restore_outcomes (.object luckyDocument)).2.1 failure failed with
      ⟨field, problem, rfl⟩ | ⟨fields, fault, same, rfl, stops⟩
    · rw [failed] at unforeseen
      cases unforeseen
    · cases same
      exact ⟨fault, rfl, stops⟩

end Snapshot
end Gamebook
