import Gamebook.Proofs.Json.RoundTrip
import Gamebook.Proofs.Save.Names
import Gamebook.Save.Request
import Mathlib.Data.List.Induction
import Mathlib.Logic.Function.Basic

/-!
A store of saves as a map from ids to documents. After any requests it answers the next one as the map
would that keeps what was last written under each id and not deleted since, as long as no name is too
long. Documents count as kept if reading gives them back but for the order of
their keys.
-/
namespace Gamebook.SaveStore

/-- What is read where a document was written is that document. -/
structure Survives [Host] (document : Value) : Prop where
  writable : document.isWritable = true
  back : ∃ fields, Json.read (Json.write .file document) = .ok (.object fields) ∧
    Value.same (.object fields) document = true

theorem survives_plain [Host] {fields : Table Value} (plain : (Value.object fields).isPlain = true)
    (writable : (Value.object fields).isWritable = true)
    (shallow : (Value.object fields).depth ≤ Host.reading) : Survives (.object fields) := by
  have sorted := Value.same_sorted_self plain
  exact ⟨writable, _, Json.read_write plain writable shallow, sorted⟩

namespace Request

/-- A request with a name short enough for drafts, and a document that survives if there is one. -/
def IsSound [Host] : Request → Prop
  | .list => True
  | .act id action => id.text.length + draftMarks ≤ Host.drafting ∧
      ∀ document, action = .write document → Survives document

def Changes (id : SaveId) (request : Request) : Prop :=
  request = .act id .delete ∨ ∃ document, request = .act id (.write document)

def update (saves : SaveId → Option Value) : Request → SaveId → Option Value
  | .act id (.write document) => Function.update saves id (some document)
  | .act id .delete => Function.update saves id none
  | _ => saves

end Request

/-- The documents that requests leave, starting from none. -/
def saved (requests : List Request) : SaveId → Option Value :=
  requests.foldl Request.update fun _ => none

/-- A document was written, and neither replaced nor deleted since. -/
def LastWritten (requests : List Request) (id : SaveId) (document : Value) : Prop :=
  ∃ before since, requests = before ++ .act id (.write document) :: since ∧
    ∀ request ∈ since, ¬ request.Changes id

def after [Host] (store : SaveStore) (requests : List Request) : SaveStore :=
  requests.foldl (fun store request => (store.serve request).1) store

/-- How a map answers a request. -/
inductive Answers [Host] (saves : SaveId → Option Value) : Request → Outcome Reply → Prop
  | list {ids : List SaveId} (ascending : ids.Pairwise fun a b => a.text < b.text)
      (all : ∀ id, id ∈ ids ↔ (saves id).isSome = true) : Answers saves .list (.ok (.listed ids))
  | find (id : SaveId) : Answers saves (.act id .find) (.ok (.found (saves id).isSome))
  | read {id : SaveId} {document : Value} {fields : Table Value} (kept : saves id = some document)
      (back : Json.read (Json.write .file document) = .ok (.object fields))
      (same : Value.same (.object fields) document = true) :
      Answers saves (.act id .read) (.ok (.document fields))
  | unread {id : SaveId} (absent : saves id = none) :
      Answers saves (.act id .read) (.error (.noEntry (.text id.text)))
  | write (id : SaveId) (document : Value) : Answers saves (.act id (.write document)) (.ok .written)
  | delete (id : SaveId) : Answers saves (.act id .delete) (.ok (.deleted (saves id).isSome))
  | lock (id : SaveId) : Answers saves (.act id .lock) (.ok .locked)

theorem Answers.of_read [Host] {saves : SaveId → Option Value} {id : SaveId} {outcome : Outcome Reply}
    (answers : Answers saves (.act id .read) outcome) {document : Value}
    (kept : saves id = some document) :
    ∃ fields, outcome = .ok (.document fields) ∧ Value.same (.object fields) document = true := by
  cases answers with
  | read found back same =>
    obtain rfl := Option.some.inj (found.symm.trans kept)
    exact ⟨_, rfl, same⟩
  | unread absent => cases absent.symm.trans kept

/-- The files of the saves hold what a map has under their ids. -/
structure Mirrors [Host] (store : SaveStore) (saves : SaveId → Option Value) : Prop where
  distinct : store.entries.names.Nodup
  held : ∀ id, store.held id = (saves id).map fun document => .text (Json.write .file document)
  survive : ∀ id document, saves id = some document → Survives document

variable {store : SaveStore} {saves : SaveId → Option Value} {id : SaveId}

theorem not_refuses [Host] (fits : id.text.length + draftMarks ≤ Host.drafting) :
    ¬ store.refuses id = true :=
  Bool.eq_false_iff.mp (refuses_short (id.isShort_of_draft fits) store)

namespace Mirrors

theorem isSome_held [Host] (mirrors : store.Mirrors saves) (id : SaveId) :
    (store.held id).isSome = (saves id).isSome := by
  rw [mirrors.held, Option.isSome_map]

theorem not_directory [Host] (mirrors : store.Mirrors saves) (id : SaveId) :
    store.held id ≠ some .directory := by
  rw [mirrors.held]
  cases saves id <;> simp

theorem list [Host] (mirrors : store.Mirrors saves) :
    Answers saves .list (.ok (.listed store.ids)) := by
  refine .list (ids_increasing mirrors.distinct) fun id => ?_
  rw [mem_ids, ← Option.isSome_iff_exists, mirrors.isSome_held]

theorem find [Host] (mirrors : store.Mirrors saves)
    (fits : id.text.length + draftMarks ≤ Host.drafting) :
    store.contains id = .ok (saves id).isSome := by
  rw [contains, if_neg (not_refuses fits), ← Assoc.isSome_get?, ← mirrors.isSome_held]
  rfl

theorem read [Host] (mirrors : store.Mirrors saves)
    (fits : id.text.length + draftMarks ≤ Host.drafting) :
    Answers saves (.act id .read) ((store.read id).map .document) := by
  have held : store.entries.get? id.fileName = _ := mirrors.held id
  rw [SaveStore.read, if_neg (not_refuses fits), held]
  cases kept : saves id with
  | none => exact .unread kept
  | some document =>
    obtain ⟨fields, back, same⟩ := (mirrors.survive id document kept).back
    simp only [Option.map_some, back]
    exact .read kept back same

theorem put [Host] (mirrors : store.Mirrors saves) {document : Value} (survives : Survives document) :
    (store.put id.fileName (.text (Json.write .file document))).Mirrors
      (Function.update saves id (some document)) := by
  refine ⟨?distinct, fun other => ?held, fun other found kept => ?survive⟩
  case distinct => exact Assoc.nodup_keys_insert (beq_self_eq_true _) mirrors.distinct _
  case held =>
    by_cases same : other = id
    · rw [same, held_put, Function.update_self]
      rfl
    · have differs : other.fileName ≠ id.fileName := fun named => same (SaveId.fileName_injective named)
      rw [held_put_other differs, Function.update_of_ne same, mirrors.held]
  case survive =>
    by_cases same : other = id
    · rw [same, Function.update_self] at kept
      obtain rfl := Option.some.inj kept
      exact survives
    · rw [Function.update_of_ne same] at kept
      exact mirrors.survive other found kept

theorem removed [Host] (mirrors : store.Mirrors saves) {next : SaveStore}
    (ok : store.delete id = .ok (some next)) : next.Mirrors (Function.update saves id none) := by
  obtain ⟨gone, others⟩ := held_delete ok
  refine ⟨?distinct, fun other => ?held, fun other found kept => ?survive⟩
  case distinct =>
    rw [entries_delete ok]
    exact mirrors.distinct.sublist (List.filter_sublist.map _)
  case held =>
    by_cases same : other = id
    · rw [same, gone, Function.update_self]
      rfl
    · rw [others other same, Function.update_of_ne same, mirrors.held]
  case survive =>
    have differs : other ≠ id := by
      rintro rfl
      rw [Function.update_self] at kept
      cases kept
    rw [Function.update_of_ne differs] at kept
    exact mirrors.survive other found kept

theorem write [Host] (mirrors : store.Mirrors saves)
    (fits : id.text.length + draftMarks ≤ Host.drafting)
    {document : Value} (survives : Survives document) : store.write id document =
      (store.put id.fileName (.text (Json.write .file document)), .ok ()) := by
  have cases_ := write_cases store id document true
  generalize store.write id document = result at cases_
  cases cases_ with
  | long long => exact absurd long (Nat.not_lt.mpr fits)
  | unwritable _ long => cases long.symm.trans survives.writable
  | unsorted _ _ mixed => cases mixed
  | directory _ _ _ blocked => exact absurd blocked (mirrors.not_directory id)
  | written => rfl

theorem delete [Host] (mirrors : store.Mirrors saves)
    (fits : id.text.length + draftMarks ≤ Host.drafting) :
    (saves id = none ∧ store.delete id = .ok none) ∨
      (saves id).isSome = true ∧ ∃ next, store.delete id = .ok (some next) := by
  have held : store.entries.get? id.fileName = _ := mirrors.held id
  rw [SaveStore.delete, if_neg (not_refuses fits), held]
  cases kept : saves id with
  | none => exact .inl ⟨rfl, rfl⟩
  | some document => exact .inr ⟨rfl, _, rfl⟩

/-- One request is answered as by the map, and changes the store as it does the map. -/
theorem serve [Host] (mirrors : store.Mirrors saves) {request : Request} (sound : request.IsSound) :
    Answers saves request (store.serve request).2 ∧
      (store.serve request).1.Mirrors (request.update saves) := by
  cases request with
  | list => exact ⟨mirrors.list, mirrors⟩
  | act id action =>
    obtain ⟨fits, survive⟩ := sound
    cases action with
    | find =>
      have found := mirrors.find fits
      refine ⟨?_, mirrors⟩
      simp only [SaveStore.serve, act, found]
      exact .find id
    | read => exact ⟨mirrors.read fits, mirrors⟩
    | write document =>
      have survives := survive document rfl
      have written := mirrors.write fits survives
      simp only [SaveStore.serve, act_write, written]
      exact ⟨.write id document, mirrors.put survives⟩
    | delete =>
      have answer : Answers saves (.act id .delete) (.ok (.deleted (saves id).isSome)) := .delete id
      rcases mirrors.delete fits with ⟨absent, deleted⟩ | ⟨present, next, deleted⟩
      · have unchanged : Function.update saves id none = saves :=
          Function.update_eq_self_iff.mpr absent.symm
        simp only [SaveStore.serve, act, deleted, Request.update, unchanged]
        exact ⟨by simpa [absent] using answer, mirrors⟩
      · simp only [SaveStore.serve, act, deleted]
        exact ⟨present ▸ answer, mirrors.removed deleted⟩
    | lock => exact ⟨.lock id, mirrors⟩

theorem after [Host] (mirrors : store.Mirrors saves) {requests : List Request}
    (sound : ∀ request ∈ requests, request.IsSound) :
    (store.after requests).Mirrors (requests.foldl Request.update saves) := by
  induction requests generalizing store saves with
  | nil => exact mirrors
  | cons request requests ih =>
    obtain ⟨first, others⟩ := List.forall_mem_cons.mp sound
    exact ih (mirrors.serve first).2 others

theorem nothing [Host] (bare : store.entries = []) : store.Mirrors fun _ => none := by
  refine ⟨by rw [bare]; exact List.nodup_nil, fun id => ?_, nofun⟩
  change store.entries.get? id.fileName = none
  rw [bare]
  rfl

end Mirrors

theorem Request.update_eq_some {request : Request} {document : Value} :
    request.update saves id = some document ↔ request = .act id (.write document) ∨
      saves id = some document ∧ ¬ request.Changes id := by
  cases request with
  | list => simp [update, Changes]
  | act changed action =>
    by_cases same : changed = id
    · subst same
      cases action <;> simp [update, Changes]
    · have other : id ≠ changed := Ne.symm same
      cases action <;> simp [update, Changes, same, Function.update_of_ne other]

theorem lastWritten_concat {requests : List Request} {request : Request} {document : Value} :
    LastWritten (requests ++ [request]) id document ↔ request = .act id (.write document) ∨
      LastWritten requests id document ∧ ¬ request.Changes id := by
  constructor
  · rintro ⟨before, since, whole, unchanged⟩
    -- Either the write is the request itself, or the request is the last of those after the write.
    rcases List.eq_nil_or_concat' since with rfl | ⟨others, last, rfl⟩
    · obtain ⟨_, ended⟩ := List.append_inj' whole rfl
      exact .inl (List.cons.inj ended).1
    · rw [← List.cons_append, ← List.append_assoc] at whole
      obtain ⟨earlier, ended⟩ := List.append_inj' whole rfl
      obtain rfl := (List.cons.inj ended).1
      have last : ¬ request.Changes id := unchanged request (List.mem_append_right _ (.head _))
      have others := fun other inside => unchanged other (List.mem_append_left _ inside)
      exact .inr ⟨⟨before, _, earlier, others⟩, last⟩
  · rintro (rfl | ⟨⟨before, since, rfl, unchanged⟩, last⟩)
    · exact ⟨requests, [], rfl, nofun⟩
    · refine ⟨before, since ++ [request], by simp, fun other inside => ?_⟩
      rcases List.mem_append.mp inside with earlier | now
      · exact unchanged other earlier
      · rwa [List.mem_singleton.mp now]

theorem saved_eq_some {requests : List Request} {document : Value} :
    saved requests id = some document ↔ LastWritten requests id document := by
  induction requests using List.reverseRecOn with
  | nil =>
    refine ⟨nofun, ?_⟩
    rintro ⟨before, since, whole, _⟩
    cases before <;> cases whole
  | append_singleton requests request ih =>
    have next : saved (requests ++ [request]) = request.update (saved requests) := by
      rw [saved, List.foldl_append]
      rfl
    rw [next, Request.update_eq_some, lastWritten_concat, ih]

/-- From an empty directory on, every request is answered as by the map that has under each id the
document last written there and not deleted since. -/
theorem answers_mapped [Host] {store : SaveStore} {requests : List Request} {request : Request}
    (bare : store.entries = []) (sound : ∀ asked ∈ requests ++ [request], asked.IsSound) :
    Answers (saved requests) request ((store.after requests).serve request).2 ∧
      ∀ id document, saved requests id = some document ↔ LastWritten requests id document := by
  obtain ⟨before, now⟩ := List.forall_mem_append.mp sound
  have mirrors : (store.after requests).Mirrors (saved requests) :=
    (Mirrors.nothing bare).after before
  exact ⟨(mirrors.serve (now request (.head _))).1, fun id document => saved_eq_some⟩

/-- A document with its fields in another order than in its file. -/
def logbook : Value := .object [("turns", .int 3), ("node", .text "pier")]

open scoped Host in
theorem answers_mapped_logbook : ∃ book draft : SaveId,
    book.text = "log.json" ∧ draft.text = "log.tmp" ∧
    ∃ fields, ((empty.after [.act book (.write logbook), .act draft (.write logbook), .list,
        .act draft .delete]).serve (.act book .read)).2 = .ok (.document fields) ∧
      Value.same (.object fields) logbook = true := by
  let book : SaveId := ⟨"log.json", by decide⟩
  let draft : SaveId := ⟨"log.tmp", by decide⟩
  let requests : List Request :=
    [.act book (.write logbook), .act draft (.write logbook), .list, .act draft .delete]
  have survives : Survives logbook :=
    survives_plain (by decide) (by decide +kernel) (by decide)
  have writes (id : SaveId) (fits : id.text.length + draftMarks ≤ Host.drafting) :
      (Request.act id (.write logbook)).IsSound := by
    refine ⟨fits, ?_⟩
    rintro document ⟨⟩
    exact survives
  have sound : ∀ asked ∈ requests ++ [.act book .read], asked.IsSound := by
    intro asked inside
    simp only [requests, List.cons_append, List.nil_append, List.mem_cons, List.not_mem_nil,
      or_false] at inside
    rcases inside with rfl | rfl | rfl | rfl | rfl
    · exact writes book (by decide)
    · exact writes draft (by decide)
    · trivial
    · exact ⟨by decide, nofun⟩
    · exact ⟨by decide, nofun⟩
  obtain ⟨answers, mapped⟩ := answers_mapped (rfl : empty.entries = []) sound
  have written : LastWritten requests book logbook := by
    refine ⟨[], _, rfl, fun request since => ?_⟩
    simp only [List.mem_cons, List.not_mem_nil, or_false] at since
    rcases since with rfl | rfl | rfl <;> simp [Request.Changes, book, draft]
  exact ⟨book, draft, rfl, rfl, answers.of_read ((mapped book logbook).mpr written)⟩

end Gamebook.SaveStore
