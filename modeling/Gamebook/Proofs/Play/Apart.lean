import Gamebook.Proofs.Play.Alike
import Gamebook.Proofs.Play.Replay
import Gamebook.Proofs.Play.Untouched

/-!
Saves have nothing to do with each other. Though they share a directory and dice, what is asked of a
save comes to the same whether anything else is asked for in between or not, as long as a directory
takes its name.
-/
namespace Gamebook

namespace GameMaster
variable {σ : Type} {master : GameMaster σ} {id : SaveId}

/-- The name of the save that is asked for, which a list has none of. -/
def Request.save? : Request → Option Value
  | .start _ _ _ save _ _ _ | .resume save | .choose _ save _ | .progress save | .delete save => some save
  | .list _ _ => none

/-- Whether a request is for a save. -/
def Request.isFor (id : SaveId) (request : Request) : Bool :=
  request.save?.any fun save => (SaveId.ofValue save).toOption == some id

theorem Request.isFor_iff {request : Request} : request.isFor id = true ↔
    ∃ save, request.save? = some save ∧ SaveId.ofValue save = .ok id := by
  have found (save : Value) : (SaveId.ofValue save).toOption = some id ↔ SaveId.ofValue save = .ok id := by
    cases SaveId.ofValue save <;> simp [Except.toOption]
  simp [isFor, Option.any_eq_true, found]

def Reply.unrolled : Reply → Reply
  | .chosen transition view => .chosen transition.unrolled view
  | reply => reply

theorem establish_alike [Host] (short : id.IsShort) {save : Value}
    (asked : SaveId.ofValue save = .ok id)
    (now : Timestamp) (player story seed stats : Value) (overwrite : Bool) :
    Playing.Alike master.generator id (fun state other => state = other)
      (master.establish now player story save seed stats overwrite)
      (master.establish now player story save seed stats overwrite) := by
  refine Playing.alike_bind (Playing.alike_outcome _) ?_
  rintro start _ ⟨rfl, _⟩
  refine Playing.alike_bind (Playing.alike_outcome _) ?_
  rintro own _ ⟨rfl, found⟩
  obtain rfl := Except.ok.inj (asked.symm.trans found)
  refine Playing.alike_ask (fun _ _ => SaveStore.contains_short short) fun isTaken => ?_
  split
  · exact Playing.alike_throw _
  refine Playing.alike_bind (Playing.alike_outcome _) ?_
  rintro state _ ⟨rfl, made⟩
  refine Playing.alike_bind (Playing.alike_outcome _) fun _ _ _ => ?_
  have named : state.saveId = .text id.text := by
    obtain ⟨_, rfl, _⟩ := newState_eq_ok made
    exact SaveId.ofValue_eq_ok asked
  exact Playing.alike_bind (Playing.alike_persist named) fun _ _ _ => Playing.alike_pure rfl

theorem advance_alike [Host] (short : id.IsShort) {save : Value}
    (asked : SaveId.ofValue save = .ok id) (now : Timestamp) (index : Value) :
    Playing.Alike master.generator id
      (fun transition other => transition.unrolled = other.unrolled)
      (master.advance now save index) (master.advance now save index) := by
  refine Playing.alike_bind (Playing.alike_outcome _) ?_
  rintro own _ ⟨rfl, found⟩
  obtain rfl := Except.ok.inj (asked.symm.trans found)
  refine Playing.alike_bind (Playing.alike_load short) ?_
  rintro state _ ⟨rfl, named⟩
  refine Playing.alike_bind (Playing.alike_outcome _) ?_
  rintro navigator _ ⟨rfl, _⟩
  refine Playing.alike_bind
    (Playing.alike_draw (navigator.makeChoice_endsAs master.generator now state index)) ?_
  rintro transition other ⟨same, ⟨dice, after, drawn⟩, _⟩
  -- Only what was rolled may differ, which no state remembers.
  have states : transition.unrolled.state = other.unrolled.state := by rw [same]
  have kept : transition.state.saveId = .text id.text :=
    (Navigator.makeChoice_taken drawn).sameGame.save.trans named
  rw [← show transition.state = other.state from states]
  exact Playing.alike_bind (Playing.alike_persist kept) fun _ _ _ => Playing.alike_pure same

theorem loaded_alike [Host] {α : Type} (short : id.IsShort) {save : Value}
    (asked : SaveId.ofValue save = .ok id) (use : GameState → Outcome α) :
    Playing.Alike master.generator id (fun value other => value = other)
      (do Playing.outcome (use (← Playing.load (← Playing.outcome (SaveId.ofValue save)))))
      (do Playing.outcome (use (← Playing.load (← Playing.outcome (SaveId.ofValue save))))) := by
  refine Playing.alike_bind (Playing.alike_outcome _) ?_
  rintro own _ ⟨rfl, found⟩
  obtain rfl := Except.ok.inj (asked.symm.trans found)
  refine Playing.alike_bind (Playing.alike_load short) ?_
  rintro state _ ⟨rfl, _⟩
  exact (Playing.alike_outcome _).weaken fun _ _ same => same.1

theorem start_alike [Host] (short : id.IsShort) {save : Value} (asked : SaveId.ofValue save = .ok id)
    (now : Timestamp) (player story seed stats : Value) (overwrite : Bool) :
    Playing.Alike master.generator id (fun view other => view = other)
      (master.start now player story save seed stats overwrite)
      (master.start now player story save seed stats overwrite) := by
  rw [start_eq]
  refine Playing.alike_bind (establish_alike short asked now player story seed stats overwrite) ?_
  rintro state _ rfl
  exact (Playing.alike_outcome _).weaken fun _ _ same => same.1

theorem choose_alike [Host] (short : id.IsShort) {save : Value} (asked : SaveId.ofValue save = .ok id)
    (now : Timestamp) (index : Value) :
    Playing.Alike master.generator id
      (fun shown other => shown.1.unrolled = other.1.unrolled ∧ shown.2 = other.2)
      (master.choose now save index) (master.choose now save index) := by
  rw [choose_eq]
  refine Playing.alike_bind (advance_alike short asked now index) fun transition other same => ?_
  have states : transition.unrolled.state = other.unrolled.state := by rw [same]
  rw [← show transition.state = other.state from states]
  refine Playing.alike_bind (Playing.alike_outcome _) ?_
  rintro view _ ⟨rfl, _⟩
  exact Playing.alike_pure ⟨same, rfl⟩

/-- What is asked of a save comes to the same, but for rolls, in worlds in which it holds the
same. -/
theorem serve_alike [Host] (short : id.IsShort) {request : Request}
    (addressed : request.isFor id = true) :
    Playing.Alike master.generator id (fun reply other => reply.unrolled = other.unrolled)
      (master.serve request) (master.serve request) := by
  obtain ⟨save, is, asked⟩ := Request.isFor_iff.mp addressed
  cases request with
  | start now player story save seed stats overwrite =>
    cases is
    exact (start_alike short asked now player story seed stats overwrite).reply
      fun _ _ same => congrArg Reply.shown same
  | resume save =>
    cases is
    exact (loaded_alike short asked master.view).reply fun _ _ same => congrArg Reply.shown same
  | choose now save index =>
    cases is
    refine (choose_alike short asked now index).reply fun shown other same => ?_
    exact congrArg₂ Reply.chosen same.1 same.2
  | progress save =>
    cases is
    exact (loaded_alike short asked fun state => master.navigator >>= fun navigator =>
      navigator.progress state).reply fun _ _ same => congrArg Reply.counted same
  | list player story => cases is
  | delete save =>
    cases is
    exact (Playing.alike_delete short asked).reply fun _ _ _ => rfl

variable {world after : World σ}

theorem Puts.others [Host] {save : Value} {state : GameState} (puts : Puts save state world after)
    (named : world.saves.Named) : after.saves.Named ∧ ∀ id, SaveId.ofValue save ≠ .ok id →
      after.saves.held id = world.saves.held id := by
  obtain ⟨own, document, entry, asked, documents, put⟩ := puts
  rw [put]
  refine ⟨named.put ⟨state, document, documents⟩, fun id other => SaveStore.held_put_other fun same => ?_⟩
  exact other (SaveId.fileName_injective same ▸ asked)

/-- A request leaves saves that name themselves, and all of them but the one that it is for
alone. -/
theorem serve_others [Host] (named : world.saves.Named) {request : Request}
    (leads : (master.serve request).LeadsTo world after) : after.saves.Named ∧
      ∀ id, request.isFor id = false → after.saves.held id = world.saves.held id := by
  have apart {id : SaveId} {save : Value} (is : request.save? = some save)
      (other : request.isFor id = false) : SaveId.ofValue save ≠ .ok id := by
    intro asked
    rw [Request.isFor_iff.mpr ⟨save, is, asked⟩] at other
    cases other
  cases leaves_of_leadsTo leads with
  | spared same => exact ⟨named.of_same same, fun id _ => (same id).1⟩
  | started state established =>
    obtain ⟨kept, others⟩ := (establish_puts established).others named
    exact ⟨kept, fun id other => others id (apart rfl other)⟩
  | chosen transition advanced =>
    obtain ⟨kept, others⟩ := (advance_puts named advanced).others named
    exact ⟨kept, fun id other => others id (apart rfl other)⟩
  | deleted own asked removed =>
    refine ⟨named.delete removed, fun id other => (SaveStore.held_delete removed).2 id ?_⟩
    rintro rfl
    exact apart rfl other asked

theorem serve_keeps [Host] (request : Request) :
    Playing.Keeps master.generator.Returns (master.serve request) := by
  have loaded (save : Value) {α : Type} (use : GameState → Playing σ α)
      (rest : ∀ state, Playing.Keeps master.generator.Returns (use state)) :
      Playing.Keeps master.generator.Returns
        (do use (← Playing.load (← Playing.outcome (SaveId.ofValue save)))) :=
    Playing.keeps_bind (Playing.keeps_outcome _) fun id => Playing.keeps_bind (Playing.keeps_load id) rest
  cases request with
  | start now player story save seed stats overwrite =>
    refine Playing.keeps_bind ?_ fun view => Playing.keeps_pure _
    refine Playing.keeps_bind (Playing.keeps_outcome _) fun start => ?_
    refine Playing.keeps_bind (Playing.keeps_outcome _) fun id => ?_
    refine Playing.keeps_bind Playing.keeps_get fun world => ?_
    refine Playing.keeps_bind (Playing.keeps_outcome _) fun isTaken => ?_
    split
    · exact Playing.keeps_throw _
    refine Playing.keeps_bind (Playing.keeps_outcome _) fun state => ?_
    refine Playing.keeps_bind (Playing.keeps_outcome _) fun _ => ?_
    exact Playing.keeps_bind (Playing.keeps_persist state) fun _ => Playing.keeps_outcome _
  | resume save =>
    refine Playing.keeps_bind ?_ fun view => Playing.keeps_pure _
    exact loaded save _ fun state => Playing.keeps_outcome _
  | choose now save index =>
    refine Playing.keeps_bind ?_ fun shown => Playing.keeps_pure _
    refine loaded save _ fun state => Playing.keeps_bind (Playing.keeps_outcome _) fun navigator => ?_
    refine Playing.keeps_bind (Playing.keeps_draw
      (navigator.makeChoice_endsAs master.generator now state index)) fun transition => ?_
    refine Playing.keeps_bind (Playing.keeps_persist _) fun _ => ?_
    exact Playing.keeps_bind (Playing.keeps_outcome _) fun view => Playing.keeps_pure _
  | progress save =>
    refine Playing.keeps_bind ?_ fun progress => Playing.keeps_pure _
    exact loaded save _ fun state => Playing.keeps_outcome _
  | list player story =>
    refine Playing.keeps_bind Playing.keeps_get fun world => ?_
    exact Playing.keeps_bind (Playing.keeps_outcome _) fun summaries => Playing.keeps_pure _
  | delete save => exact Playing.keeps_bind (Playing.keeps_delete save) fun _ => Playing.keeps_pure _

/-- The requests for a save with their answers, but for rolls. -/
def told (id : SaveId) (replies : List (Request × Outcome Reply)) : List (Request × Outcome Reply) :=
  (replies.filter fun answer => answer.1.isFor id).map fun answer =>
    (answer.1, answer.2.map Reply.unrolled)

theorem told_append (id : SaveId) (replies : List (Request × Outcome Reply)) (request : Request)
    (reply : Outcome Reply) : told id (replies ++ [(request, reply)]) = told id replies ++
      if request.isFor id then [(request, reply.map Reply.unrolled)] else [] := by
  unfold told
  rw [List.filter_append, List.map_append, List.filter_singleton]
  cases request.isFor id <;> rfl

/-- Two services in which one save holds the same and was told the same. -/
structure Service.Close [Host] (generator : Generator σ) (id : SaveId) (service other : Service σ) :
    Prop where
  world : service.world.Close generator id other.world
  told : told id service.replies = told id other.replies

variable {service other : Service σ}

theorem call_close [Host] (short : id.IsShort) (close : service.Close master.generator id other)
    {request : Request} (addressed : request.isFor id = true) :
    (master.call service request).Close master.generator id (master.call other request) := by
  have both := serve_alike short addressed service.world other.world close.world
  unfold call
  generalize master.serve request service.world = one at both
  generalize master.serve request other.world = two at both
  cases both with
  | ok related near =>
    refine ⟨near, ?_⟩
    rw [told_append, told_append, close.told, Except.map, Except.map, related]
  | error failure near =>
    refine ⟨near, ?_⟩
    rw [told_append, told_append, close.told]

theorem call_other [Host] (close : service.Close master.generator id other) {request : Request}
    (elsewhere : request.isFor id = false) :
    (master.call service request).Close master.generator id other := by
  -- Only one of the services goes on; what it answers is not told.
  have leads := master.call_leadsTo service request
  obtain ⟨kept, others⟩ := serve_others close.world.named.1 leads
  have alive := serve_keeps request service.world _ leads close.world.returns.1
  refine ⟨⟨(others id elsewhere).trans close.world.held, ⟨kept, close.world.named.2⟩,
    alive, close.world.returns.2⟩, ?_⟩
  obtain ⟨reply, answered⟩ := master.call_replies service request
  rw [answered, told_append, elsewhere, close.told]
  exact List.append_nil _

theorem run_close [Host] (short : id.IsShort) (close : service.Close master.generator id other)
    (requests : List Request) : (master.run service requests).Close master.generator id
      (master.run other (requests.filter (·.isFor id))) := by
  -- A request for the save is a step of both services, and any other a step of the first alone.
  induction requests generalizing service other with
  | nil => exact close
  | cons request requests ih =>
    cases addressed : request.isFor id with
    | true =>
      rw [List.filter_cons_of_pos addressed]
      exact ih (call_close short close addressed)
    | false =>
      rw [List.filter_cons_of_neg (by simp [addressed])]
      exact ih (call_other close addressed)

/-- Nothing succeeds for a save whose name no directory takes. -/
theorem serve_short [Host] (named : world.saves.Named) {request : Request}
    (addressed : request.isFor id = true) {reply : Reply}
    (ok : master.serve request world = .ok reply after) : id.IsShort := by
  obtain ⟨save, is, asked⟩ := Request.isFor_iff.mp addressed
  have loaded {α : Type} {use : GameState → Playing σ α} {value : α} {after : World σ}
      (ok : (do use (← Playing.load (← Playing.outcome (SaveId.ofValue save)))) world = .ok value after) :
      id.IsShort := by
    obtain ⟨own, found, unloaded⟩ := Playing.outcome_bind_eq_ok.mp ok
    obtain rfl := Except.ok.inj (asked.symm.trans found)
    obtain ⟨state, between, load, _⟩ := draw_bind_eq_ok.mp unloaded
    obtain ⟨entry, held⟩ := SaveStore.held_of_load (Playing.load_eq_ok.mp load).1
    exact named.short held
  cases request with
  | start now player story save seed stats overwrite =>
    cases is
    obtain ⟨view, between, started, _⟩ := draw_bind_eq_ok.mp ok
    rw [start_eq] at started
    obtain ⟨state, between, established, _⟩ := draw_bind_eq_ok.mp started
    obtain ⟨own, document, entry, found, documents, _⟩ := establish_puts established
    obtain rfl := Except.ok.inj (asked.symm.trans found)
    exact id.isShort_of_draft documents.short
  | resume save =>
    cases is
    obtain ⟨view, between, resumed, _⟩ := draw_bind_eq_ok.mp ok
    exact loaded resumed
  | choose now save index =>
    cases is
    obtain ⟨shown, between, chosen, _⟩ := draw_bind_eq_ok.mp ok
    exact loaded chosen
  | progress save =>
    cases is
    obtain ⟨progress, between, counted, _⟩ := draw_bind_eq_ok.mp ok
    exact loaded counted
  | list player story => cases is
  | delete save =>
    cases is
    obtain ⟨_, between, deleted, _⟩ := draw_bind_eq_ok.mp ok
    obtain ⟨own, found, undeleted⟩ := Playing.outcome_bind_eq_ok.mp deleted
    obtain rfl := Except.ok.inj (asked.symm.trans found)
    rw [Playing.get_bind] at undeleted
    obtain ⟨left, removed, done⟩ := Playing.outcome_bind_eq_ok.mp undeleted
    cases left with
    | none => cases done
    | some saves =>
      obtain ⟨entry, held⟩ := SaveStore.held_of_delete removed
      exact named.short held

/-- A name that is too long cannot be looked up where a path has no room for it, or else once there
is a directory. -/
theorem refuses_long [Host] (long : ¬ id.IsShort) (store : SaveStore) :
    store.refuses id = (decide (Host.room < id.fileName.length) || store.directory?.isSome) := by
  unfold SaveStore.refuses
  by_cases roomy : Host.room < id.fileName.length
  · rw [decide_eq_true roomy, Bool.true_or, Bool.true_or]
  · have named : Host.naming < id.fileName.length := by
      refine Nat.lt_of_not_le fun short => long ⟨short, Nat.le_of_not_lt roomy⟩
    rw [decide_eq_true named, Bool.and_true]

/-- What cannot be done is refused for another reason once there is a directory. -/
theorem resume_long [Host] (named : world.saves.Named) (long : ¬ id.IsShort) :
    master.resume (.text id.text) world =
      .error (if Host.room < id.fileName.length || world.saves.directory?.isSome
        then .save (.unreadable id.text) else .notFound .save (.text id.text)) world := by
  have loads : world.saves.load id =
      .error (if Host.room < id.fileName.length || world.saves.directory?.isSome
        then .save (.unreadable id.text) else .notFound .save (.text id.text)) := by
    have absent : world.saves.entries.get? id.fileName = none := by
      cases held : world.saves.entries.get? id.fileName with
      | none => rfl
      | some entry => exact absurd (named.short held) long
    rw [SaveStore.load, SaveStore.read, refuses_long long, absent]
    cases decide (Host.room < id.fileName.length) || world.saves.directory?.isSome <;> rfl
  refine Playing.outcome_bind_eq_error.mpr (.inr ⟨id, SaveId.ofValue_text id, ?_⟩)
  exact draw_bind_eq_error.mpr (.inl (Playing.load_eq_error.mpr ⟨loads, rfl⟩))

def Refused (id : SaveId) (replies : List (Request × Outcome Reply)) : Prop :=
  ∀ answer ∈ told id replies, ∃ failure, answer.2 = .error failure

theorem call_refused [Host] (long : ¬ id.IsShort) (named : service.world.saves.Named)
    (refused : Refused id service.replies) (request : Request) :
    Refused id (master.call service request).replies := by
  have more {reply : Outcome Reply}
      (failed : request.isFor id = true → ∃ failure, reply = .error failure) :
      Refused id (service.replies ++ [(request, reply)]) := by
    intro answer member
    rw [told_append] at member
    rcases List.mem_append.mp member with before | last
    · exact refused answer before
    · split at last
      · rename_i addressed
        obtain ⟨failure, rfl⟩ := failed addressed
        exact ⟨failure, List.mem_singleton.mp last ▸ rfl⟩
      · cases last
  unfold call
  split
  · rename_i reply world served
    exact more fun addressed => absurd (serve_short named addressed served) long
  · rename_i failure world served
    exact more fun _ => ⟨failure, rfl⟩

theorem run_refused [Host] (long : ¬ id.IsShort) (named : service.world.saves.Named)
    (refused : Refused id service.replies) (requests : List Request) :
    (master.run service requests).world.saves.Named ∧
      Refused id (master.run service requests).replies := by
  induction requests generalizing service with
  | nil => exact ⟨named, refused⟩
  | cons request requests ih =>
    exact ih (serve_others named (master.call_leadsTo service request)).1
      (call_refused long named refused request)

/-- A run does to a save what the requests for that save do alone, with the same answers but for
rolls. Where its name is too long, all of them fail in both, but with failures that tell whether
anything was ever written, unless a path has no room for it anyway. -/
theorem run_apart [Host] {dice other : σ} (returns : master.generator.Returns dice)
    (also : master.generator.Returns other) (id : SaveId) (requests : List Request) :
    let whole := master.run (.opening dice) requests
    let alone := master.run (.opening other) (requests.filter (·.isFor id))
    whole.world.saves.held id = alone.world.saves.held id ∧
      (id.IsShort → told id whole.replies = told id alone.replies) ∧
      (¬ id.IsShort → Refused id whole.replies ∧ Refused id alone.replies ∧
        ∀ service ∈ [whole, alone], master.resume (.text id.text) service.world =
          .error (if Host.room < id.fileName.length || service.world.saves.directory?.isSome
            then .save (.unreadable id.text) else .notFound .save (.text id.text))
            service.world) := by
  intro whole alone
  have fresh : SaveStore.empty.Named := SaveStore.empty_every
  by_cases short : id.IsShort
  · have opening : (Service.opening dice).Close master.generator id (.opening other) :=
      ⟨⟨rfl, ⟨fresh, fresh⟩, returns, also⟩, rfl⟩
    have close := run_close short opening requests
    exact ⟨close.world.held, fun _ => close.told, fun long => absurd short long⟩
  · have refused (dice : σ) (requests : List Request) :
        (master.run (.opening dice) requests).world.saves.Named ∧
          Refused id (master.run (.opening dice) requests).replies := by
      have opening : Refused id (Service.opening dice).replies :=
        fun answer member => absurd member List.not_mem_nil
      exact run_refused short fresh opening requests
    obtain ⟨named, all⟩ := refused dice requests
    obtain ⟨namedAlone, allAlone⟩ := refused other (requests.filter (·.isFor id))
    have absent {store : SaveStore} (named : store.Named) : store.held id = none := by
      cases held : store.held id with
      | none => rfl
      | some entry => exact absurd (named.short held) short
    refine ⟨(absent named).trans (absent namedAlone).symm, fun long => absurd long short,
      fun _ => ⟨all, allAlone, fun service member => ?_⟩⟩
    rcases List.mem_pair.mp member with rfl | rfl
    · exact resume_long named short
    · exact resume_long namedAlone short

/-- The shortest name that is too long for a directory. -/
def longId : SaveId := ⟨String.ofList (List.replicate 251 'x'), by
  rw [String.toList_ofList]
  decide +kernel⟩

def harbourStart : Request := .start Story.Lighthouse.morning (.text "sailor") (.text "harbour")
  (.text "first") .null .null false

def harbourRun [Host] (requests : List Request) : Service RandomSource :=
  harbourMaster.run (.opening (.ofSeed (.number 1))) requests

theorem longId_length : longId.text.length = 251 := by
  show (String.ofList (List.replicate 251 'x')).length = 251
  rw [String.length_ofList, List.length_replicate]

open scoped Host in
/-- The first game in the harbour changes what is said of a save that cannot be there. -/
theorem run_apart_harbour :
    harbourMaster.generator.Returns (.ofSeed (.number 1)) ∧
    (harbourRun [harbourStart]).world.saves.held longId = (harbourRun []).world.saves.held longId ∧
    harbourMaster.resume (.text longId.text) (harbourRun [harbourStart]).world =
      .error (.save (.unreadable longId.text)) (harbourRun [harbourStart]).world ∧
    harbourMaster.resume (.text longId.text) (harbourRun []).world =
      .error (.notFound .save (.text longId.text)) (harbourRun []).world := by
  have returns : harbourMaster.generator.Returns (.ofSeed (.number 1)) := RandomSource.returns_ofSeed _
  have long : ¬ longId.IsShort := by
    rw [SaveId.IsShort, SaveId.fileName, String.length_append, longId_length]
    decide
  have elsewhere : [harbourStart].filter (·.isFor longId) = [] := by
    refine List.filter_eq_nil_iff.mpr fun request member addressed => ?_
    obtain rfl := List.mem_singleton.mp member
    obtain ⟨save, is, asked⟩ := Request.isFor_iff.mp addressed
    cases is
    have length := longId_length
    rw [← Value.text.inj (SaveId.ofValue_eq_ok asked)] at length
    cases length
  have made : (harbourRun [harbourStart]).world.saves.directory?.isSome = true := by decide +kernel
  have unmade : ¬ (harbourRun []).world.saves.directory?.isSome = true := by decide +kernel
  have apart := run_apart returns returns longId [harbourStart]
  dsimp only at apart
  rw [elsewhere, ← harbourRun, ← harbourRun] at apart
  obtain ⟨held, _, refused⟩ := apart
  obtain ⟨_, _, each⟩ := refused long
  have first := each _ (.head _)
  have second := each _ (.tail _ (.head _))
  have roomy : decide (Host.room < longId.fileName.length) = false := by
    rw [SaveId.fileName, String.length_append, longId_length]
    decide
  rw [roomy, Bool.false_or, if_pos made] at first
  rw [roomy, Bool.false_or, if_neg unmade] at second
  exact ⟨returns, held, first, second⟩

end GameMaster
end Gamebook
