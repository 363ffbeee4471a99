import Gamebook.Proofs.Play.Writing

/-!
Requests to a game master, one after the other. A request writes or removes one save at most, and
which one can be told from the request and what that save holds.
-/
namespace Gamebook.GameMaster

/-- A call with its arguments and the time at which it is made. -/
inductive Request where
  | start (now : Timestamp) (player story save seed stats : Value) (overwrite : Bool)
  | resume (save : Value)
  | choose (now : Timestamp) (save index : Value)
  | progress (save : Value)
  | list (player story : Option Value)
  | delete (save : Value)

inductive Reply where
  | shown (view : GameView)
  | chosen (transition : Transition) (view : GameView)
  | counted (progress : Progress)
  | listed (summaries : List SaveSummary)
  | deleted

variable {σ : Type} (master : GameMaster σ)

def serve [Host] : Request → Playing σ Reply
  | .start now player story save seed stats overwrite => do
    return .shown (← master.start now player story save seed stats overwrite)
  | .resume save => do return .shown (← master.resume save)
  | .choose now save index => do
    let (transition, view) ← master.choose now save index
    return .chosen transition view
  | .progress save => do return .counted (← master.progress save)
  | .list player story => do
    return .listed (← Playing.outcome ((← get).saves.summaries player story))
  | .delete save => do
    Playing.delete save
    return .deleted

/-- A world and what the requests that led to it gave. -/
structure Service (σ : Type) where
  world : World σ
  replies : List (Request × Outcome Reply)

/-- A directory that is not made yet. -/
def Service.opening (dice : σ) : Service σ := ⟨⟨.empty, dice⟩, []⟩

def call [Host] (service : Service σ) (request : Request) : Service σ :=
  match master.serve request service.world with
  | .ok reply world => ⟨world, service.replies ++ [(request, .ok reply)]⟩
  | .error failure world => ⟨world, service.replies ++ [(request, .error failure)]⟩

def run [Host] (service : Service σ) (requests : List Request) :
    Service σ := requests.foldl master.call service

end GameMaster

/-- A computation leads from one world to another, whether it succeeds or fails. -/
def Playing.LeadsTo {σ α : Type} (computation : Playing σ α) (world after : World σ) : Prop :=
  (∃ value, computation world = .ok value after) ∨
    ∃ failure, computation world = .error failure after

namespace Playing
variable {σ α β : Type} {world after : World σ}

theorem leadsTo_bind {first : Playing σ α} {next : α → Playing σ β}
    (leads : (first >>= next).LeadsTo world after) :
    (∃ failure, first world = .error failure after) ∨
      ∃ value between, first world = .ok value between ∧ (next value).LeadsTo between after := by
  rcases leads with ⟨result, ok⟩ | ⟨failure, failed⟩
  · obtain ⟨value, between, head, rest⟩ := draw_bind_eq_ok.mp ok
    exact .inr ⟨value, between, head, .inl ⟨result, rest⟩⟩
  · rcases draw_bind_eq_error.mp failed with head | ⟨value, between, head, rest⟩
    · exact .inl ⟨failure, head⟩
    · exact .inr ⟨value, between, head, .inr ⟨failure, rest⟩⟩

theorem leadsTo_pure {value : α} (leads : (pure value : Playing σ α).LeadsTo world after) :
    after = world := by
  rcases leads with ⟨_, ok⟩ | ⟨_, failed⟩
  · exact (draw_pure_eq_ok.mp ok).2
  · cases failed

theorem leadsTo_outcome {result : Outcome α} (leads : (outcome result).LeadsTo world after) :
    after = world := by
  rcases leads with ⟨_, ok⟩ | ⟨_, failed⟩
  · exact (draw_lift_eq_ok.mp ok).2
  · exact (draw_lift_eq_error.mp failed).2

theorem leadsTo_reply {computation : Playing σ α} {make : α → β}
    (leads : (computation >>= fun value => pure (make value)).LeadsTo world after) :
    computation.LeadsTo world after := by
  rcases leadsTo_bind leads with failed | ⟨value, between, ok, rest⟩
  · exact .inr failed
  · exact leadsTo_pure rest ▸ .inl ⟨value, ok⟩

theorem leadsTo_load [Host] {id : SaveId} {next : GameState → Playing σ β}
    (leads : (load id >>= next).LeadsTo world after) :
    after = world ∨ ∃ state, world.saves.load id = .ok state ∧ (next state).LeadsTo world after := by
  rcases leadsTo_bind leads with ⟨failure, failed⟩ | ⟨state, between, ok, rest⟩
  · exact .inl (load_eq_error.mp failed).2
  · obtain ⟨found, rfl⟩ := load_eq_ok.mp ok
    exact .inr ⟨state, found, rest⟩

theorem leadsTo_outcome_bind {result : Outcome α} {next : α → Playing σ β}
    (leads : (outcome result >>= next).LeadsTo world after) :
    after = world ∨ ∃ value, result = .ok value ∧ (next value).LeadsTo world after := by
  rcases leadsTo_bind leads with ⟨failure, failed⟩ | ⟨value, between, ok, rest⟩
  · exact .inl (draw_lift_eq_error.mp failed).2
  · obtain ⟨found, rfl⟩ := draw_lift_eq_ok.mp ok
    exact .inr ⟨value, found, rest⟩

end Playing

namespace GameMaster
variable {σ : Type} {master : GameMaster σ}

variable (master) in
theorem call_leadsTo [Host] (service : Service σ) (request : Request) :
    (master.serve request).LeadsTo service.world (master.call service request).world := by
  unfold call
  split
  · rename_i reply world served
    exact .inl ⟨reply, served⟩
  · rename_i failure world served
    exact .inr ⟨failure, served⟩

variable (master) in
theorem call_replies [Host] (service : Service σ) (request : Request) : ∃ reply,
    (master.call service request).replies = service.replies ++ [(request, reply)] := by
  unfold call
  split <;> exact ⟨_, rfl⟩

theorem run_keeps [Host] {good : World σ → Prop} {allowed : Request → Prop}
    (keeps : ∀ request, allowed request → ∀ world after, (master.serve request).LeadsTo world after →
      good world → good after)
    {service : Service σ} (holds : good service.world) {requests : List Request}
    (each : ∀ request ∈ requests, allowed request) : good (master.run service requests).world := by
  induction requests generalizing service with
  | nil => exact holds
  | cons request requests ih =>
    obtain ⟨first, others⟩ := List.forall_mem_cons.mp each
    exact ih (keeps request first _ _ (master.call_leadsTo service request) holds) others

/-- What a request does to the saves. -/
inductive Leaves [Host] (master : GameMaster σ) (world : World σ) : Request → World σ → Prop
  | spared {request : Request} {after : World σ} (same : after.saves.SameSaves world.saves) :
      Leaves master world request after
  | started {now : Timestamp} {player story save seed stats : Value} {overwrite : Bool}
      {after : World σ} (state : GameState)
      (established : master.establish now player story save seed stats overwrite world =
        .ok state after) :
      Leaves master world (.start now player story save seed stats overwrite) after
  | chosen {now : Timestamp} {save index : Value} {after : World σ} (transition : Transition)
      (advanced : master.advance now save index world = .ok transition after) :
      Leaves master world (.choose now save index) after
  | deleted {save : Value} {after : World σ} (id : SaveId) (named : SaveId.ofValue save = .ok id)
      (removed : world.saves.delete id = .ok (some after.saves)) :
      Leaves master world (.delete save) after

theorem leaves_of_leadsTo [Host] {request : Request} {world after : World σ}
    (leads : (master.serve request).LeadsTo world after) : master.Leaves world request after := by
  -- What fails may have made the directory or drawn from the dice, but has written to no save.
  have spared (same : after = world) : master.Leaves world request after :=
    .spared (same ▸ .refl _)
  cases request with
  | start now player story save seed stats overwrite =>
    have leads := Playing.leadsTo_reply leads
    rw [start_eq] at leads
    rcases Playing.leadsTo_bind leads with ⟨_, failed⟩ | ⟨state, between, established, rest⟩
    · exact .spared (establish_eq_error failed)
    · obtain rfl := Playing.leadsTo_outcome rest
      exact .started state established
  | resume save =>
    have leads := Playing.leadsTo_reply leads
    rcases Playing.leadsTo_outcome_bind leads with same | ⟨id, _, leads⟩
    · exact spared same
    rcases Playing.leadsTo_load leads with same | ⟨state, _, leads⟩
    · exact spared same
    · exact spared (Playing.leadsTo_outcome leads)
  | choose now save index =>
    have leads := Playing.leadsTo_reply leads
    rw [choose_eq] at leads
    rcases Playing.leadsTo_bind leads with ⟨_, failed⟩ | ⟨transition, between, advanced, rest⟩
    · exact .spared (advance_eq_error failed)
    · obtain rfl := Playing.leadsTo_outcome (Playing.leadsTo_reply rest)
      exact .chosen transition advanced
  | progress save =>
    have leads := Playing.leadsTo_reply leads
    rcases Playing.leadsTo_outcome_bind leads with same | ⟨id, _, leads⟩
    · exact spared same
    rcases Playing.leadsTo_load leads with same | ⟨state, _, leads⟩
    · exact spared same
    · exact spared (Playing.leadsTo_outcome leads)
  | list player story =>
    exact spared (Playing.leadsTo_outcome (Playing.leadsTo_reply leads))
  | delete save =>
    have leads := Playing.leadsTo_reply leads
    rcases leads with ⟨_, ok⟩ | ⟨_, failed⟩
    · obtain ⟨id, named, ok⟩ := Playing.outcome_bind_eq_ok.mp ok
      rw [Playing.get_bind] at ok
      obtain ⟨found, removed, ok⟩ := Playing.outcome_bind_eq_ok.mp ok
      cases found with
      | none => cases ok
      | some saves =>
        cases ok
        exact .deleted id named removed
    · exact spared (Playing.delete_eq_error failed)

/-- A state that names the save that was asked for was written to it. -/
def Puts [Host] (save : Value) (state : GameState) (world after : World σ) : Prop :=
  ∃ (id : SaveId) (document : Table Value) (entry : Entry), SaveId.ofValue save = .ok id ∧
    id.Documents state document entry ∧ after.saves = world.saves.put id.fileName entry

variable {world after : World σ}

theorem establish_puts [Host] {now : Timestamp} {player story save seed stats : Value}
    {overwrite : Bool} {state : GameState}
    (ok : master.establish now player story save seed stats overwrite world = .ok state after) :
    Puts save state world after := by
  obtain ⟨start, id, document, _, asked, made, _, written, _, writable, short, rfl⟩ := establish_eq_ok ok
  have named : state.saveId = .text id.text := by
    obtain ⟨_, rfl, _⟩ := newState_eq_ok made
    exact SaveId.ofValue_eq_ok asked
  exact ⟨id, document, _, asked, ⟨named, written, writable, short, rfl⟩, rfl⟩

theorem advance_puts [Host] (named : world.saves.Named) {now : Timestamp} {save index : Value}
    {transition : Transition} (ok : master.advance now save index world = .ok transition after) :
    Puts save transition.state world after := by
  obtain ⟨id, state, source, document, own, asked, found, _, taken, written, saved, _, writable, short,
    put⟩ := advance_eq_ok ok
  have kept : transition.state.saveId = .text id.text := taken.sameGame.save.trans (named.saveId found)
  obtain rfl : id = own := Except.ok.inj ((SaveId.ofValue_text id).symm.trans (kept ▸ saved))
  exact ⟨id, document, _, asked, ⟨kept, written, writable, short, rfl⟩, put⟩

end GameMaster
end Gamebook
