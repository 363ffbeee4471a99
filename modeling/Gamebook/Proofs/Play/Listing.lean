import Gamebook.Proofs.Play.Untouched
import Gamebook.Proofs.Save.Names
import Gamebook.Proofs.State.Refusing

/-!
Lists of the saves in a directory. A save that cannot be loaded is listed as corrupt, but some
contents of files are not found to be wrong: they break off the list as a whole.
-/
namespace Gamebook

/-- Contents of a file that reading a state from it does not get past. -/
inductive Entry.Stops [Host] : Entry → Fault → Prop
  | bytes : Stops .garbled .undecodable
  | numeral {content : String} (long : Json.read content = .error .numeralTooLong) :
      Stops (.text content) .badValue
  | nesting {content : String} (deep : Json.read content = .error .tooDeep) :
      Stops (.text content) .tooDeep
  | document {content : String} {document : Table Value} {fault : Fault}
      (read : Json.read content = .ok (.object document))
      (broken : Snapshot.restore (.object document) = .error (.fault fault)) :
      Stops (.text content) fault

namespace SaveSummary
variable (player story : Option Value) (summary : SaveSummary)

/-- Whether a listed save is one that can be loaded, of the given player and story. -/
def isOf : Bool :=
  match summary.state with
  | .ok state => SaveStore.matchesFilter player story state
  | .error _ => false

/-- Corrupt saves are of no player and no story, and only shown where none is given. -/
def isShown : Bool := summary.isOf player story || summary.isCorrupt && (player.isNone && story.isNone)

private theorem isShown_filtered {player story : Option Value} (filtered : player ≠ none ∨ story ≠ none)
    (summary : SaveSummary) : summary.isShown player story = summary.isOf player story := by
  have given : (player.isNone && story.isNone) = false := by
    rw [Bool.and_eq_false_iff, Option.isNone_eq_false_iff, Option.isNone_eq_false_iff]
    exact filtered.imp Option.isSome_iff_ne_none.mpr Option.isSome_iff_ne_none.mpr
  rw [isShown, given, Bool.and_false, Bool.or_false]

private theorem isShown_unfiltered (summary : SaveSummary) : summary.isShown none none = true := by
  obtain ⟨id, state⟩ := summary
  cases state <;> rfl

end SaveSummary

namespace SaveStore
variable {store : SaveStore} {id : SaveId} {player story : Option Value}

/-- The file of a save holds what loading it does not get past. -/
def StopsAt [Host] (store : SaveStore) (id : SaveId) (fault : Fault) : Prop :=
  store.refuses id = false ∧ ∃ entry, store.held id = some entry ∧ entry.Stops fault

/-- The first save in the order of their ids that loading does not get past. -/
def StopsFirstAt [Host] (store : SaveStore) (id : SaveId) (fault : Fault) : Prop :=
  ∃ before after, store.ids = before ++ id :: after ∧
    (∀ earlier ∈ before, ∀ other, ¬ store.StopsAt earlier other) ∧ store.StopsAt id fault

/-- Why a save cannot be loaded: something is wrong with it, or it holds what loading does not get
past. -/
inductive Misses [Host] (store : SaveStore) (id : SaveId) : Failure → Prop
  | save (problem : SaveProblem) : Misses store id (.save problem)
  | absent (kind : Gamebook.Named) (key : Value) : Misses store id (.notFound kind key)
  | stops {fault : Fault} (stops : store.StopsAt id fault) : Misses store id (.fault fault)

private theorem read_eq_ok [Host] {document : Table Value} : store.read id = .ok document ↔
    store.refuses id = false ∧ ∃ content, store.held id = some (.text content) ∧
      Json.read content = .ok (.object document) := by
  constructor
  · intro ok
    unfold SaveStore.read at ok
    split at ok
    · cases ok
    · rename_i taken
      split at ok
      · cases ok
      · cases ok
      · cases ok
      · rename_i content held
        split at ok <;> cases ok
        rename_i read
        exact ⟨eq_false_of_ne_true taken, content, held, read⟩
  · rintro ⟨taken, content, held, read⟩
    unfold SaveStore.held at held
    rw [SaveStore.read, if_neg (ne_true_of_eq_false taken), held]
    simp only [read]

private theorem read_eq_error [Host] {failure : Failure} (failed : store.read id = .error failure) :
    (∃ key, failure = .noEntry key) ∨ store.Misses id failure := by
  unfold SaveStore.read at failed
  split at failed
  · cases failed
    exact .inr (.save _)
  · rename_i taken
    have stopsAt {entry : Entry} {fault : Fault} (held : store.held id = some entry)
        (stops : entry.Stops fault) : store.Misses id (.fault fault) :=
      .stops ⟨eq_false_of_ne_true taken, entry, held, stops⟩
    split at failed
    · cases failed
      exact .inl ⟨_, rfl⟩
    · cases failed
      exact .inr (.save _)
    · rename_i held
      cases failed
      exact .inr (stopsAt held .bytes)
    · rename_i content held
      split at failed
      · cases failed
      · cases failed
        exact .inr (.save _)
      · cases failed
        exact .inr (.save _)
      · rename_i long
        cases failed
        exact .inr (stopsAt held (.numeral long))
      · rename_i deep
        cases failed
        exact .inr (stopsAt held (.nesting deep))

private theorem load_fails [Host] (store : SaveStore) (id : SaveId) :
    FailsBy (store.Misses id) (store.load id) := by
  intro failure failed
  unfold load at failed
  split at failed
  · cases failed
    exact .absent _ _
  · rename_i problem missing unread
    cases failed
    rcases read_eq_error unread with ⟨key, rfl⟩ | misses
    · exact absurd rfl (missing key)
    · exact misses
  · rename_i document read
    obtain ⟨taken, content, held, whole⟩ := read_eq_ok.mp read
    cases restored : Snapshot.restore (.object document) with
    | ok state =>
      rw [restored] at failed
      cases failed
    | error problem =>
      rw [restored] at failed
      cases Snapshot.restore_fails _ problem restored with
      | field name wrong =>
        cases failed
        exact .save _
      | tooLarge =>
        cases failed
        exact .stops ⟨taken, _, held, .document whole restored⟩
      | tooDeep =>
        cases failed
        exact .stops ⟨taken, _, held, .document whole restored⟩
      | tooLong =>
        cases failed
        exact .stops ⟨taken, _, held, .document whole restored⟩

private theorem StopsAt.load [Host] {fault : Fault} (stops : store.StopsAt id fault) :
    store.load id = .error (.fault fault) := by
  obtain ⟨taken, entry, held, stops⟩ := stops
  unfold SaveStore.held at held
  rw [SaveStore.load, SaveStore.read, if_neg (ne_true_of_eq_false taken), held]
  cases stops with
  | bytes => rfl
  | numeral long => simp only [long]
  | nesting deep => simp only [deep]
  | document read broken => simp only [read, broken]

/-- The saves that a list names, each with what loading it gives. -/
def summary [Host] (store : SaveStore) (id : SaveId) : SaveSummary := ⟨id, store.load id⟩

private theorem summary?_of_stopsAt [Host] {fault : Fault} (stops : store.StopsAt id fault) :
    store.summary? player story id = .error (.fault fault) := by
  rw [summary?, stops.load]

private theorem summary?_of_goesOn [Host] (goesOn : ∀ fault, ¬ store.StopsAt id fault) :
    store.summary? player story id =
      .ok (Option.guard (fun summary => summary.isShown player story) (store.summary id)) := by
  unfold summary? summary SaveSummary.isShown SaveSummary.isOf SaveSummary.isCorrupt
  cases loaded : store.load id with
  | ok state => simp [Option.guard]
  | error failure =>
    cases load_fails store id failure loaded with
    | save problem => simp [corruptSummary?, Option.guard]
    | absent kind key => simp [corruptSummary?, Option.guard]
    | stops stops => exact absurd stops (goesOn _)

private theorem goesOn_of_summary? [Host] {result : Option SaveSummary}
    (ok : store.summary? player story id = .ok result) : ∀ fault, ¬ store.StopsAt id fault := by
  intro fault stops
  rw [summary?_of_stopsAt stops] at ok
  cases ok

private theorem summaries_eq_error [Host] {failure : Failure} :
    store.summaries player story = .error failure ↔
      ∃ id fault, store.StopsFirstAt id fault ∧ failure = .fault fault := by
  have whole : store.summaries player story = .error failure ↔
      store.ids.mapM (store.summary? player story) = .error failure := by
    unfold summaries
    cases store.ids.mapM (store.summary? player story) with
    | ok results => exact ⟨nofun, nofun⟩
    | error problem =>
      constructor <;> rintro ⟨⟩
      · rfl
      · rfl
  rw [whole, mapM_eq_error]
  constructor
  · rintro ⟨before, id, after, ids, earlier, broken⟩
    by_cases stopped : ∃ fault, store.StopsAt id fault
    · obtain ⟨fault, stops⟩ := stopped
      rw [summary?_of_stopsAt stops] at broken
      cases broken
      refine ⟨id, fault, ⟨before, after, ids, ?_, stops⟩, rfl⟩
      intro other member
      obtain ⟨result, read⟩ := earlier other member
      exact goesOn_of_summary? read
    · rw [summary?_of_goesOn (not_exists.mp stopped)] at broken
      cases broken
  · rintro ⟨id, fault, ⟨before, after, ids, earlier, stops⟩, rfl⟩
    refine ⟨before, id, after, ids, ?_, summary?_of_stopsAt stops⟩
    intro other member
    exact ⟨_, summary?_of_goesOn (earlier other member)⟩

private theorem summaries_of_goesOn [Host] (goesOn : ∀ id ∈ store.ids, ∀ fault, ¬ store.StopsAt id fault)
    (player story : Option Value) : store.summaries player story =
      .ok ((store.ids.map store.summary).filter fun summary => summary.isShown player story) := by
  have each (id : SaveId) (member : id ∈ store.ids) : store.summary? player story id =
      .ok (Option.guard (fun summary => summary.isShown player story) (store.summary id)) :=
    summary?_of_goesOn (goesOn id member)
  rw [summaries, mapM_of_ok each]
  refine congrArg Except.ok ?_
  rw [← List.filterMap_eq_filter, List.filterMap_map, List.filterMap_map]
  rfl

private theorem goesOn_of_summaries [Host] {all : List SaveSummary}
    (ok : store.summaries player story = .ok all) : ∀ id ∈ store.ids, ∀ fault, ¬ store.StopsAt id fault := by
  intro id member
  obtain ⟨results, read, _⟩ := bind_eq_ok.mp ok
  obtain ⟨result, _, listed⟩ := mapM_result read member
  exact goesOn_of_summary? listed

/-- A list breaks off exactly at the first save that loading does not get past. Every other list has
each save once, in ascending order, corrupt where it cannot be loaded; a player or a story takes out
the saves that are theirs. -/
theorem summaries_complete [Host] (store : SaveStore) :
    (∀ player story failure, store.summaries player story = .error failure ↔
      ∃ id fault, store.StopsFirstAt id fault ∧ failure = .fault fault) ∧
    ∀ all, store.summaries none none = .ok all →
      (∀ id, (all.map (·.id)).count id = store.entries.names.count id.fileName) ∧
      all.Pairwise (fun a b => a.id.text ≤ b.id.text) ∧
      (∀ summary ∈ all, summary.state = store.load summary.id ∧
        (summary.isCorrupt = true ↔ ¬ ∃ state, store.load summary.id = .ok state)) ∧
      ∀ player story, player ≠ none ∨ story ≠ none →
        store.summaries player story = .ok (all.filter (·.isOf player story)) := by
  refine ⟨fun player story failure => summaries_eq_error, fun all listed => ?_⟩
  have goesOn := goesOn_of_summaries listed
  have whole : all = store.ids.map store.summary := by
    rw [summaries_of_goesOn goesOn, List.filter_eq_self.mpr fun summary _ =>
      SaveSummary.isShown_unfiltered summary] at listed
    exact (Except.ok.inj listed).symm
  have ids : all.map (·.id) = store.ids := by
    rw [whole, List.map_map]
    exact List.map_id _
  refine ⟨?once, ?ascending, ?loaded, ?filtered⟩
  case once =>
    intro id
    rw [ids, ids_count]
  case ascending =>
    rw [whole, List.pairwise_map]
    exact store.ids_ascending
  case loaded =>
    intro summary member
    rw [whole] at member
    obtain ⟨id, _, rfl⟩ := List.mem_map.mp member
    refine ⟨rfl, ?_⟩
    unfold SaveStore.summary SaveSummary.isCorrupt
    cases store.load id <;> simp
  case filtered =>
    intro player story filtered
    rw [summaries_of_goesOn goesOn, ← whole]
    simp only [SaveSummary.isShown_filtered filtered]

/-- A save of a sailor's game after another file of a save. -/
def besideOldSave (entry : Entry) : SaveStore :=
  ⟨some [("bad.json", entry), ("first.json", .text GameMaster.oldSave)]⟩

private theorem besideOldSave_ids (entry : Entry) :
    (besideOldSave entry).ids = [⟨"bad", by decide⟩, ⟨"first", by decide⟩] := by
  have names : ["bad.json", "first.json"].filterMap SaveId.ofFileName? =
      [⟨"bad", by decide⟩, ⟨"first", by decide⟩] := by decide +kernel
  change (["bad.json", "first.json"].filterMap SaveId.ofFileName?).mergeSort _ = _
  rw [names]
  apply List.mergeSort_of_pairwise
  decide

open scoped Host in
theorem summaries_besideOldSave :
    (besideOldSave .garbled).summaries none none = .error (.fault .undecodable) ∧
    ∃ all, (besideOldSave (.text "[]")).summaries none none = .ok all ∧
      (all.map (·.id)).count ⟨"bad", by decide⟩ = 1 ∧
      (besideOldSave (.text "[]")).summaries (some (.text "sailor")) none =
        .ok (all.filter (·.isOf (some (.text "sailor")) none)) := by
  constructor
  · have stops : (besideOldSave .garbled).StopsAt ⟨"bad", by decide⟩ .undecodable :=
      ⟨by decide, .garbled, rfl, .bytes⟩
    have ids := besideOldSave_ids .garbled
    refine ((summaries_complete (besideOldSave .garbled)).1 none none _).mpr ?_
    exact ⟨_, _, ⟨[], _, ids, List.forall_mem_nil _, stops⟩, rfl⟩
  · have listed : ((besideOldSave (.text "[]")).summaries none none).isOk = true := by
      rw [summaries, besideOldSave_ids]
      decide +kernel
    obtain ⟨all, listed⟩ := ok_of_isOk listed
    obtain ⟨once, _, _, filtered⟩ := (summaries_complete (besideOldSave (.text "[]"))).2 all listed
    exact ⟨all, listed, once _, filtered _ _ (.inl (by simp))⟩

end SaveStore
end Gamebook
