import Gamebook.Proofs.Condition.Predicates
import Gamebook.Proofs.Play.Serving
import Gamebook.Proofs.Play.Starting

/-!
What a new game or a choice shows is what loading the save shows next, but for the order of tables,
exactly if no number of the game is too large for a double. Whole numbers have no bounds while a
game is played and written, and come up against those of doubles when it is read.
-/
namespace Gamebook

theorem Condition.Context.ofContents_sorted (contents : GameState.Contents) :
    (ofContents contents.sorted).Alike (ofContents contents) where
  stats := Dict.sorted_sorted contents.stats
  wallets := Dict.sorted_sorted contents.wallets
  inventory := Dict.sorted_sorted contents.inventory
  flags := Dict.sorted_sorted contents.flags
  statusEffects := rfl
  hasStatusEffect := rfl
  visitedNodes := rfl
  hasVisited := rfl
  currentNodeId := rfl
  choiceCount := rfl

namespace Navigator
variable {navigator : Navigator} {contents : GameState.Contents}

theorem availability_sorted (blind : navigator.predicates.OrderBlind) (keyed : contents.Keyed)
    (choice : StoryChoice) : navigator.availability choice contents.sorted.state =
      navigator.availability choice contents.state := by
  have seen := Condition.Context.ofState_eq_ok keyed
  have arranged : Condition.Context.ofState contents.sorted.state =
      .ok (Condition.Context.ofContents contents.sorted) :=
    Condition.Context.ofState_eq_ok ⟨keyed.visits, keyed.types⟩
  have same := Condition.failures_eq (Condition.Context.ofContents_sorted contents) blind 0
    choice.conditions
  unfold availability Condition.availability
  rw [seen, arranged]
  simp only [bind, Except.bind, same]

theorem choices_sorted (blind : navigator.predicates.OrderBlind) (keyed : contents.Keyed) :
    navigator.choices contents.sorted.state = navigator.choices contents.state := by
  have views : (fun entry : StoryChoice × Nat => navigator.view contents.sorted.state entry.2 entry.1) =
      fun entry => navigator.view contents.state entry.2 entry.1 := by
    funext entry
    rw [view, view, availability_sorted blind keyed]
  exact congrArg (fun each => navigator.currentNode contents.state >>= fun node =>
    node.choices.zipIdx.mapM each) views

end Navigator

namespace GameMaster
variable {σ : Type} {master : GameMaster σ}

theorem view_sorted (blind : master.predicates.OrderBlind) {contents : GameState.Contents}
    (keyed : contents.Keyed) : master.view contents.sorted.state =
      (master.view contents.state).map fun view => { view with state := contents.sorted.state } := by
  unfold view navigator
  cases master.stories with
  | error failure => rfl
  | ok source =>
    let navigator : Navigator := ⟨source, master.predicates⟩
    have choices : navigator.choices contents.sorted.state = navigator.choices contents.state :=
      Navigator.choices_sorted blind keyed
    show (navigator.node (.text contents.node) >>= fun node =>
      navigator.choices contents.sorted.state >>= fun choices =>
        navigator.progress contents.state >>= fun progress => _) = Except.map _
          (navigator.node (.text contents.node) >>= fun node =>
            navigator.choices contents.state >>= fun choices =>
              navigator.progress contents.state >>= fun progress => _)
    rw [choices]
    cases navigator.node (.text contents.node) with
    | error failure => rfl
    | ok node =>
      cases navigator.choices contents.state with
      | error failure => rfl
      | ok offered =>
        cases navigator.progress contents.state with
        | error failure => rfl
        | ok progress => rfl

theorem view_state {state : GameState} {view : GameView} (ok : master.view state = .ok view) :
    view.state = state := by
  obtain ⟨navigator, _, unread⟩ := bind_eq_ok.mp ok
  obtain ⟨node, _, unseen⟩ := bind_eq_ok.mp unread
  obtain ⟨choices, _, uncounted⟩ := bind_eq_ok.mp unseen
  obtain ⟨progress, _, made⟩ := bind_eq_ok.mp uncounted
  exact congrArg GameView.state (pure_eq_ok.mp made).symm

theorem view_saveId {state : GameState} {view : GameView} (ok : master.view state = .ok view) :
    view.saveId = state.saveId := by
  obtain ⟨navigator, _, unread⟩ := bind_eq_ok.mp ok
  obtain ⟨node, _, unseen⟩ := bind_eq_ok.mp unread
  obtain ⟨choices, _, uncounted⟩ := bind_eq_ok.mp unseen
  obtain ⟨progress, _, made⟩ := bind_eq_ok.mp uncounted
  exact congrArg GameView.saveId (pure_eq_ok.mp made).symm

/-- What a caller may ask for: plain texts, a mapping for the stats, and times with an offset. -/
def Request.IsFair : Request → Prop
  | .start now player _ _ seed stats _ =>
    now.IsAware ∧ player.isPlain = true ∧ (seed = .null ∨ seed.IsWord) ∧ stats.IsStats
  | .choose now _ _ => now.IsAware
  | _ => True

variable {now : Timestamp} {save : Value} {world after : World σ}

/-- A computation wrote a game under the save that was asked for. -/
def Keeps [Host] (save : Value) (state : GameState) (world after : World σ) : Prop :=
  ∃ (id : SaveId) (contents : GameState.Contents) (entry : Entry), SaveId.ofValue save = .ok id ∧
    state = contents.state ∧ id.Keeps contents entry ∧
    after.saves = world.saves.put id.fileName entry

theorem Keeps.own [Host] {state : GameState} (keeps : Keeps save state world after)
    (own : world.saves.Own) : after.saves.Own := by
  obtain ⟨id, contents, entry, _, _, kept, put⟩ := keeps
  exact put ▸ own.put ⟨contents, kept⟩

theorem establish_keeps [Host] (plain : master.HasPlain) {player story seed stats : Value}
    {overwrite : Bool}
    (fair : Request.IsFair (.start now player story save seed stats overwrite)) {state : GameState}
    (ok : master.establish now player story save seed stats overwrite world = .ok state after) :
    Keeps save state world after := by
  obtain ⟨aware, named, seeded, given⟩ := fair
  obtain ⟨start, id, document, starts, asked, made, accepted, written, keys, writable, short, rfl⟩ :=
    establish_eq_ok ok
  obtain ⟨contents, rfl, own, storable⟩ :=
    newState_storable plain aware named seeded given starts asked made accepted keys
  obtain ⟨deep, rfl⟩ := (GameState.Contents.ofState_eq_ok
    fun record member => (storable.history record member).time).mp written
  exact ⟨id, contents, _, asked, rfl,
    ⟨⟨congrArg Value.text own, written, writable, short, rfl⟩, storable, deep⟩, rfl⟩

theorem advance_keeps [Host] (plain : master.HasPlain) (own : world.saves.Own) (aware : now.IsAware)
    {index : Value} {transition : Transition}
    (ok : master.advance now save index world = .ok transition after) :
    Keeps save transition.state world after := by
  obtain ⟨id, state, source, _, _, asked, found, stories, taken, _⟩ := advance_eq_ok ok
  obtain ⟨own_id, document, entry, named, documents, put⟩ := advance_puts own.named ok
  obtain rfl := Except.ok.inj (asked.symm.trans named)
  obtain ⟨former, held⟩ := SaveStore.held_of_load found
  obtain ⟨before, kept⟩ := own id former held
  obtain ⟨_, rfl⟩ := (SaveStore.load_kept held kept state).mp found
  obtain ⟨origin, library, legible, read, rfl⟩ := plain source stories
  -- What was loaded is not what was written but that with its tables sorted, which is as storable.
  have storable := GameState.Contents.Storable.sorted kept.storable
  obtain ⟨next, reached, moves⟩ := taken.moves
  have lasting : next.Storable := moves.storable rfl (Library.ofDocument_linked read).1
    (Library.ofDocument_plain legible read) aware storable
  rw [reached] at documents
  obtain ⟨deep, rfl⟩ := (GameState.Contents.ofState_eq_ok
    fun record member => (lasting.history record member).time).mp documents.documented
  exact ⟨id, next, entry, asked, reached, ⟨documents, lasting, deep⟩, put⟩

theorem serve_own [Host] (plain : master.HasPlain) {request : Request} (fair : request.IsFair)
    (leads : (master.serve request).LeadsTo world after) (own : world.saves.Own) :
    after.saves.Own := by
  cases leaves_of_leadsTo leads with
  | spared same => exact own.of_same same
  | started state established => exact (establish_keeps plain fair established).own own
  | chosen transition advanced => exact (advance_keeps plain own fair advanced).own own
  | deleted id named removed => exact own.delete removed

theorem resume_eq_ok [Host] {view : GameView} : master.resume save world = .ok view after ↔
    ∃ id state, SaveId.ofValue save = .ok id ∧ world.saves.load id = .ok state ∧
      master.view state = .ok view ∧ after = world := by
  constructor
  · intro ok
    obtain ⟨id, asked, unloaded⟩ := Playing.outcome_bind_eq_ok.mp ok
    obtain ⟨state, between, loaded, unseen⟩ := draw_bind_eq_ok.mp unloaded
    obtain ⟨found, rfl⟩ := Playing.load_eq_ok.mp loaded
    obtain ⟨shown, rfl⟩ := draw_lift_eq_ok.mp unseen
    exact ⟨id, state, asked, found, shown, rfl⟩
  · rintro ⟨id, state, asked, found, shown, rfl⟩
    refine Playing.outcome_bind_eq_ok.mpr ⟨id, asked, ?_⟩
    exact draw_bind_eq_ok.mpr ⟨state, after, Playing.load_eq_ok.mpr ⟨found, rfl⟩,
      draw_lift_eq_ok.mpr ⟨shown, rfl⟩⟩

theorem choose_of_load [Host] {now : Timestamp} {index : Value} {id : SaveId} {state : GameState}
    (asked : SaveId.ofValue save = .ok id) (found : world.saves.load id = .ok state) :
    master.choose now save index world = (do
      let navigator ← Playing.outcome master.navigator
      let transition ← Playing.draw (navigator.makeChoice master.generator now state index)
      Playing.persist transition.state
      return (transition, ← Playing.outcome (master.view transition.state)) :
        Playing σ (Transition × GameView)) world :=
  Playing.loaded_bind asked found

/-- Loading a save gives a view with the tables of its state sorted, exactly if every number of the
state is within the range of doubles. -/
def Reloads [Host] (master : GameMaster σ) (save : Value) (view : GameView) (world : World σ) :
    Prop :=
  ∃ contents : GameState.Contents, view.state = contents.state ∧ ∀ again after,
    master.resume save world = .ok again after ↔
      contents.Sized ∧ again = { view with state := contents.sorted.state } ∧ after = world

theorem Keeps.reloads [Host] (blind : master.predicates.OrderBlind) {state : GameState}
    {view : GameView}
    (keeps : Keeps save state world after) (shown : master.view state = .ok view) :
    master.Reloads save view after := by
  obtain ⟨id, contents, entry, asked, rfl, kept, put⟩ := keeps
  have held : after.saves.held id = some entry := put ▸ SaveStore.held_put
  have arranged : master.view contents.sorted.state =
      .ok { view with state := contents.sorted.state } := by
    rw [view_sorted blind kept.storable.toSound.keyed, shown]
    rfl
  refine ⟨contents, view_state shown, fun again last => ?_⟩
  rw [resume_eq_ok]
  constructor
  · rintro ⟨found, state, named, loaded, seen, rfl⟩
    obtain rfl := Except.ok.inj (asked.symm.trans named)
    obtain ⟨sized, rfl⟩ := (SaveStore.load_kept held kept state).mp loaded
    exact ⟨sized, Except.ok.inj (seen.symm.trans arranged), rfl⟩
  · rintro ⟨sized, rfl, rfl⟩
    exact ⟨id, _, asked, (SaveStore.load_kept held kept _).mpr ⟨sized, rfl⟩, arranged, rfl⟩

/-- In any run of fair requests, what a new game or a choice shows is what loading shows next,
exactly if no number is too large. -/
theorem run_reloads [Host] (plain : master.HasPlain) (blind : master.predicates.OrderBlind) (dice : σ)
    (requests : List Request) (fair : ∀ request ∈ requests, request.IsFair) :
    let world := (master.run (.opening dice) requests).world
    (∀ now player story save seed stats overwrite view after,
      Request.IsFair (.start now player story save seed stats overwrite) →
      master.start now player story save seed stats overwrite world = .ok view after →
        master.Reloads save view after) ∧
    ∀ now save index transition view after, now.IsAware →
      master.choose now save index world = .ok (transition, view) after →
        master.Reloads save view after := by
  intro world
  have keeps (request : Request) (fair : request.IsFair) (world after : World σ)
      (leads : (master.serve request).LeadsTo world after) (own : world.saves.Own) : after.saves.Own :=
    serve_own plain fair leads own
  have fresh : (Service.opening dice).world.saves.Own := SaveStore.empty_every
  have own : world.saves.Own := run_keeps keeps fresh fair
  constructor
  · intro now player story save seed stats overwrite view after fair started
    rw [start_eq] at started
    obtain ⟨state, between, established, showing⟩ := draw_bind_eq_ok.mp started
    obtain ⟨shown, rfl⟩ := draw_lift_eq_ok.mp showing
    exact (establish_keeps plain fair established).reloads blind shown
  · intro now save index transition view after aware chosen
    obtain ⟨advanced, shown⟩ := choose_eq_ok chosen
    exact (advance_keeps plain own aware advanced).reloads blind shown

/-- A story with a choice that makes its player stronger than a double can tell. -/
def mine : Dict :=
  [(.text "mine", .object [("start", .text "shaft"), ("nodes", .object [
    ("shaft", .object [("choices", .list [.object [("text", .text "Dig"), ("target", .text "vault"),
      ("effects", .list [.object [("type", .text "stat"), ("target", .text "strength"),
        ("operation", .text "add"), ("value", .int (10 ^ 400))]])]])]),
    ("vault", .object [("is_terminal", .bool true)])])])]

def mineMaster : GameMaster RandomSource :=
  ⟨do return (← Library.ofDocument mine).source, Condition.defaultPredicates, RandomSource.generator⟩

theorem mineMaster_hasPlain : mineMaster.HasPlain := by
  intro source stories
  obtain ⟨library, read, same⟩ := bind_eq_ok.mp stories
  have plain : Dict.Plain mine := by
    refine ⟨List.nodup_singleton _, List.forall_mem_singleton.mpr ?_, List.forall_mem_singleton.mpr ?_⟩ <;>
      decide +kernel
  exact ⟨mine, library, plain, read, (pure_eq_ok.mp same).symm⟩

def mineStart : Request := .start Story.Lighthouse.morning (.text "digger") (.text "mine")
  (.text "first") .null .null false

theorem mineStart_isFair : mineStart.IsFair :=
  ⟨⟨by decide, by decide, by decide, 0, rfl, by decide, .inl rfl⟩, rfl, .inl rfl, .inl rfl, rfl⟩

/-- A game at the start of the mine. -/
def shaft (stats : Dict) : GameState.Contents :=
  ⟨"digger", "mine", "first", "shaft", [.text "shaft"], [], stats, [], [], [], [],
    Story.Lighthouse.morning, Story.Lighthouse.morning, .null⟩

def shaftWorld : World RandomSource := ⟨SaveStore.empty.put "first.json"
  (.text (Json.write .file (.object (shaft GameState.defaultStats).document))), .fixed []⟩

open scoped Host in
theorem establish_mine : mineMaster.establish Story.Lighthouse.morning (.text "digger") (.text "mine")
    (.text "first") .null .null false (Service.opening (.fixed [])).world =
      .ok (shaft GameState.defaultStats).state shaftWorld := by
  obtain ⟨state, after, established, _⟩ := ok_of_gives (show gives (fun _ => true)
    (mineMaster.establish Story.Lighthouse.morning (.text "digger") (.text "mine") (.text "first")
      .null .null false (Service.opening (.fixed [])).world) = true by decide +kernel)
  rw [established]
  obtain ⟨start, id, document, starts, asked, made, _, written, _, _, _, rfl⟩ :=
    establish_eq_ok established
  obtain rfl : Value.text "shaft" = start :=
    Except.ok.inj ((rfl : mineMaster.startNode (.text "mine") = .ok (.text "shaft")).symm.trans starts)
  obtain rfl : firstId = id := Except.ok.inj asked
  obtain rfl : (shaft GameState.defaultStats).state = state := Except.ok.inj made
  obtain ⟨_, rfl⟩ := (GameState.Contents.ofState_eq_ok (List.forall_mem_nil _)).mp written
  rfl

/-- The stats that every game begins with, as they are loaded. -/
def sortedStats : Dict :=
  ["charisma", "dexterity", "knowledge", "luck", "strength"].map (.text ·, .int 10)

open scoped Host in
theorem load_mine : shaftWorld.saves.load firstId = .ok (shaft sortedStats).state := by
  obtain ⟨id, contents, entry, asked, same, kept, put⟩ :=
    establish_keeps mineMaster_hasPlain mineStart_isFair establish_mine
  obtain rfl : firstId = id := Except.ok.inj asked
  obtain rfl := GameState.Contents.state_injective same
  have held : shaftWorld.saves.held firstId = some entry := put ▸ SaveStore.held_put
  refine (SaveStore.load_kept held kept _).mpr ⟨⟨?sized, nofun, nofun, nofun⟩, ?sorted⟩
  case sized =>
    intro entry member whole same
    obtain ⟨name, _, rfl⟩ := List.mem_map.mp member
    cases same
    decide +kernel
  case sorted =>
    have arranged : Dict.sorted GameState.defaultStats = sortedStats := by
      simp +decide [GameState.defaultStats, sortedStats, Dict.sorted, List.mergeSort,
        Value.keyBefore, Value.sorted]
    have none : Dict.sorted [] = [] := List.mergeSort_nil
    simp only [shaft, GameState.Contents.sorted, arranged, none]

/-- A whole number that no double comes near to. -/
def isImmense : Value → Bool
  | .int number => (Double.ofInt? number).isNone
  | _ => false

open scoped Host in
/-- What digging leads to is written and shown, but cannot be loaded. -/
theorem run_reloads_mine : ∃ shown after,
    mineMaster.choose Story.Lighthouse.morning (.text "first") (.int 0)
      (mineMaster.run (.opening (.fixed [])) [mineStart]).world = .ok shown after ∧
    ∀ again last, mineMaster.resume (.text "first") after ≠ .ok again last := by
  have fair : ∀ request ∈ [mineStart], request.IsFair := List.forall_mem_singleton.mpr mineStart_isFair
  have world : (mineMaster.run (.opening (.fixed [])) [mineStart]).world = shaftWorld := by
    obtain ⟨view, shown⟩ : ∃ view, mineMaster.view (shaft GameState.defaultStats).state = .ok view :=
      ok_of_isOk (by decide +kernel)
    have served : mineMaster.serve mineStart (Service.opening (.fixed [])).world =
        .ok (.shown view) shaftWorld := by
      refine draw_bind_eq_ok.mpr ⟨view, shaftWorld, ?_, rfl⟩
      rw [start_eq]
      exact draw_bind_eq_ok.mpr ⟨_, _, establish_mine, draw_lift_eq_ok.mpr ⟨shown, rfl⟩⟩
    rw [run, List.foldl_cons, List.foldl_nil, call, served]
  obtain ⟨⟨transition, view⟩, after, chosen, grown⟩ := ok_of_gives (show gives (fun shown =>
      shown.2.state.stats.get.toOption.any fun dict => dict.any fun entry => isImmense entry.2)
    (mineMaster.choose Story.Lighthouse.morning (.text "first") (.int 0) shaftWorld) = true by
      rw [choose_of_load rfl load_mine]
      decide +kernel)
  rw [← world] at chosen
  obtain ⟨contents, stateIs, reloads⟩ := (run_reloads mineMaster_hasPlain
    Condition.defaultPredicates_orderBlind (.fixed []) [mineStart] fair).2 _ _ _ _ _ _
      mineStart_isFair.1 chosen
  refine ⟨_, after, chosen, fun again last resumed => ?_⟩
  have sized := ((reloads again last).mp resumed).1
  rw [stateIs] at grown
  obtain ⟨⟨name, value⟩, member, large⟩ := List.any_eq_true.mp grown
  dsimp only at large
  unfold isImmense at large
  split at large
  · rename_i strength
    have fits := sized.stats _ member strength rfl
    rw [Option.isNone_iff_eq_none.mp large] at fits
    cases fits
  · cases large

end GameMaster
end Gamebook
