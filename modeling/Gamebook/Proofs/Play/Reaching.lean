import Gamebook.Proofs.Play.Gating
import Gamebook.Proofs.Story.Reaching
import Gamebook.Proofs.Value.Shown

/-!
Which nodes playing comes to, and which are reported as unreachable. Where choices ask for nothing
and change nothing, playing comes to whatever a path of choices leads to that goes on through no
ending. The search for unreachable nodes follows the choices of endings as well.
-/
namespace Gamebook

/-- A choice that asks for nothing and changes nothing. -/
structure StoryChoice.IsBare (choice : StoryChoice) : Prop where
  unguarded : choice.conditions = []
  changeless : choice.effects = []
  unrolled : choice.rollRequirements = []

def Story.IsBare (story : Story) : Prop :=
  ∀ entry ∈ story.nodes, ∀ choice ∈ entry.2.choices, choice.IsBare

/-- Choices lead to a node, but every way there goes on behind an ending. -/
def Story.BehindEndings (story : Story) (name : String) : Prop :=
  Graph.Leads story.nodes (.text story.start) name ∧ ¬∃ history names, story.Path history names name

/-- Calls that all succeed lead to a node. -/
def Navigator.Reaches [Host] {σ : Type} (navigator : Navigator) (generator : Generator σ)
    (state : GameState) (dice : σ) (name : String) : Prop :=
  ∃ calls, let game := navigator.play generator (.opening state dice) calls
    (∀ answer ∈ game.answers, ∃ transition, answer = .ok transition) ∧
      game.state.currentNodeId = .text name

/-- A state at a node in which nothing is broken and nothing lasts. -/
structure GameState.Idle (seed : Value) (here : String) (state : GameState) : Prop where
  current : state.currentNodeId = .text here
  seed : state.seed = seed
  visits : ∃ visits, state.visitedNodes = .known visits
  log : ∃ history : List ChoiceRecord, state.choicesHistory = .known (history.map .known)
  stats : ∃ stats, state.stats = .known stats
  wallets : ∃ wallets, state.wallets = .known wallets
  inventory : ∃ inventory, state.inventory = .known inventory
  flags : state.flags = .known []
  effects : state.statusEffects = .known []

namespace GameState

theorem Fresh.idle {story : Value} {start : String} {state : GameState}
    (fresh : state.Fresh story (.text start)) : state.Idle state.seed start := by
  obtain ⟨_, current, visits, log, stats, wallets, inventory, flags, effects⟩ := fresh.fields
  exact ⟨current, rfl, ⟨_, visits⟩, ⟨[], log⟩, stats, ⟨_, wallets⟩, ⟨_, inventory⟩, flags, effects⟩

variable {seed : Value} {here : String} {state : GameState}

theorem Idle.copy [Host] (idle : state.Idle seed here) : state.copy = .ok state := by
  obtain ⟨_, _, ⟨visits, visited⟩, ⟨history, logged⟩, ⟨stats, statsKnown⟩, ⟨wallets, walletsKnown⟩,
    ⟨inventory, inventoryKnown⟩, flags, effects⟩ := idle
  have log : state.choicesHistory.entries = .ok history := by rw [logged, Loose.entries_known]
  have none : state.statusEffects.entries = .ok [] := by rw [effects]; rfl
  have copied : state.flags.copied Host.cloning = .ok state.flags := by
    have shallow : (Loose.known ([] : Dict)).depth ≤ Host.cloning := Nat.zero_le _
    rw [flags]
    exact if_pos shallow
  unfold GameState.copy
  rw [log, none, copied, visited, statsKnown, walletsKnown, inventoryKnown]
  cases state
  dsimp only at visited logged statsKnown walletsKnown inventoryKnown effects
  subst visited logged statsKnown walletsKnown inventoryKnown effects
  rfl

theorem Idle.choiceCount (idle : state.Idle seed here) : ∃ count, state.choiceCount = .ok count := by
  obtain ⟨history, logged⟩ := idle.log
  exact ⟨_, by rw [GameState.choiceCount, logged]; rfl⟩

end GameState

namespace Navigator
variable {σ : Type} {navigator : Navigator} {generator : Generator σ} {now : Timestamp}
  {state later : GameState} {seed : Value} {here : String}

/-- Behind its seed a text goes on with a hyphen and digits, which make or break no halves. -/
theorem chars?_seeded (text : String) (count total : Nat) :
    Text.chars? s!"{text}-{count}" = none ↔ Text.chars? s!"{text}-{total}" = none := by
  have known (count : Nat) : Text.chars? s!"{text}-{count}" = none ↔
      (Text.signs (text.toList ++ ['-'])).all (fun sign => (Text.half? sign).isNone) = false := by
    have letters : (s!"{text}-{count}").toList = text.toList ++ '-' :: Nat.toDigits 10 count := by
      simp [String.toList_append, Nat.toList_repr, ToString.toString]
    have digits : Text.mark ∉ Nat.toDigits 10 count :=
      Text.unmarked_toDigits (by decide) (by decide) count
    unfold Text.chars?
    rw [letters, Text.signs_append (by decide) digits, List.all_append]
    simp [Text.half?, List.all_map, Function.comp_def]
  rw [known, known]

theorem seeded_later (idle : state.Idle seed here) {there : String} (after : later.Idle seed there)
    (seeded : ∃ next, nextSeed? state = .ok next) : ∃ next, nextSeed? later = .ok next := by
  obtain ⟨count, counted⟩ := idle.choiceCount
  obtain ⟨total, totalled⟩ := after.choiceCount
  cases unseeded : nextSeed? later with
  | ok next => exact ⟨next, rfl⟩
  | error fault =>
    obtain ⟨given, present, broken⟩ := (nextSeed?_eq_error totalled).mp unseeded
    rw [after.seed, ← idle.seed] at present
    rw [chars?_seeded _ total count] at broken
    obtain ⟨next, seeded⟩ := seeded
    have failed := (nextSeed?_eq_error counted).mpr ⟨given, present, broken⟩
    rw [seeded] at failed
    cases failed

/-- A choice without rolls that passes the gate, leads to a node and can be carried out is taken,
whatever the dice. -/
theorem makeChoice_unrolled [Host] {index : Value} {selection : Selection} {target : StoryNode}
    {applied : List EffectDef} (seeded : ∃ next, nextSeed? state = .ok next)
    (gated : navigator.gate state index = .ok selection)
    (leads : navigator.node (.text selection.choice.target) = .ok target)
    (unrolled : selection.choice.rollRequirements = [])
    (advanced : advance now selection target state = .ok (applied, later)) (dice : σ) :
    navigator.makeChoice generator now state index dice =
      .ok ⟨selection.node.id, target.id, applied, later, []⟩ dice := by
  have taken {τ : Type} (source : Generator τ) (drawn : τ) :
      navigator.take source now state index drawn =
        .ok ⟨selection.node.id, target.id, applied, later, []⟩ drawn := by
    have unmoved : source.resolveAll state.stats selection.choice.rollRequirements drawn =
        .ok [] drawn := by
      rw [unrolled]
      rfl
    exact take_eq_ok.mpr ⟨selection, target, [], applied, later, gated, leads, unmoved, advanced, rfl⟩
  obtain ⟨next, seeded⟩ := seeded
  refine draw_bind_eq_ok.mpr ⟨next, dice, draw_lift_eq_ok.mpr ⟨Fault.lift_eq_ok.mpr seeded, rfl⟩, ?_⟩
  cases next with
  | none => exact taken generator dice
  | some seed =>
    refine draw_lift_eq_ok.mpr ⟨?_, rfl⟩
    rw [takeSeeded, taken]

theorem advance_idle [Host] (idle : state.Idle seed here) {selection : Selection}
    (changeless : selection.choice.effects = []) (target : StoryNode) :
    ∃ applied later, advance now selection target state = .ok (applied, later) ∧
      later.Idle seed target.id := by
  obtain ⟨visits, visited⟩ := idle.visits
  obtain ⟨history, logged⟩ := idle.log
  have unaffected : state.statusEffects = .known (([] : List StatusEffect).map .known) := idle.effects
  have unbroken : (Effect.run state selection.choice.effects).broken = none := by
    rw [changeless]
    rfl
  have unchanged : (Effect.run state selection.choice.effects).state = state := by
    rw [changeless]
    rfl
  obtain ⟨⟨applied, later⟩, advanced⟩ : ∃ advanced, advance now selection target state = .ok advanced :=
    advance_of_run idle.copy unbroken ((congrArg GameState.choicesHistory unchanged).trans logged)
      ((congrArg GameState.visitedNodes unchanged).trans visited)
      ((congrArg GameState.statusEffects unchanged).trans unaffected) (List.forall_mem_nil _)
  refine ⟨applied, later, advanced, ?_⟩
  obtain ⟨copy, changed, history, visits, entries, lasting, copied, changes, offered, _, _, held,
    ticked, rfl⟩ := advance_eq_ok advanced
  obtain rfl := Except.ok.inj (idle.copy.symm.trans copied)
  rw [changeless, List.sublist_nil] at offered
  subst offered
  cases changes
  rw [idle.effects] at held
  cases held
  cases ticked
  exact ⟨rfl, idle.seed, ⟨_, rfl⟩, ⟨_, rfl⟩, idle.stats, idle.wallets, idle.inventory, idle.flags, rfl⟩

variable {library : Library} {story : Story} {id : String}

theorem makeChoice_idle [Host] (plays : navigator.stories = library.source) (linked : library.Linked)
    (listed : (id, story) ∈ library.stories) (idle : state.Idle seed here)
    (inside : here ∈ story.nodes.names) (seeded : ∃ next, nextSeed? state = .ok next)
    {node : StoryNode} {place : Nat} {choice : StoryChoice} (stands : story.nodes.get? here = some node)
    (goesOn : node.isTerminal = false) (offered : node.choices[place]? = some choice)
    (bare : choice.IsBare) (now : Timestamp) (dice : σ) :
    ∃ transition, navigator.makeChoice generator now state (.int place) dice = .ok transition dice ∧
      transition.state.Idle seed choice.target := by
  obtain ⟨found, current, same, _⟩ := node_of_mem plays linked listed inside
  obtain rfl := Option.some.inj (same.symm.trans stands)
  obtain ⟨target, leads, _, named⟩ :=
    node_of_mem plays linked listed ((linked.closed _ listed).target_mem stands offered)
  let selection : Selection := ⟨found, place, choice⟩
  have gated : navigator.gate state (.int place) = .ok selection := by
    refine gate_eq_ok_iff.mpr ⟨bind_eq_ok.mpr ⟨found, ?_, ?_⟩, ⟨[]⟩, ?_, rfl⟩
    · rw [currentNode, idle.current, current]
    · rw [choiceAt_place offered, goesOn]
      rfl
    · refine Fault.lift_eq_ok.mpr ?_
      rw [bare.unguarded]
      rfl
  have changeless : selection.choice.effects = [] := bare.changeless
  obtain ⟨applied, later, advanced, after⟩ := advance_idle idle changeless target
  rw [named] at after
  exact ⟨_, makeChoice_unrolled seeded gated leads bare.unrolled advanced dice, after⟩

theorem play_of_path [Host] (plays : navigator.stories = library.source) (linked : library.Linked)
    (listed : (id, story) ∈ library.stories) (bare : story.IsBare)
    (idle : state.Idle seed story.start) (seeded : ∃ next, nextSeed? state = .ok next) (dice : σ)
    {history : List ChoiceRecord} {names : List String} (path : story.Path history names here) :
    ∃ calls, let game := navigator.play generator (.opening state dice) calls
      (∀ answer ∈ game.answers, ∃ transition, answer = .ok transition) ∧
        game.state.Idle seed here := by
  induction path with
  | start => exact ⟨[], List.forall_mem_nil _, idle⟩
  | @on history names here node place choice before stands goesOn offered time ih =>
    obtain ⟨calls, succeed, there⟩ := ih
    have inside := ((linked.closed _ listed).path_mem before).1
    obtain ⟨entry, member, _, rfl⟩ := Assoc.mem_of_get? stands
    have free := bare entry member choice (List.mem_of_getElem? offered)
    let game := navigator.play generator (.opening state dice) calls
    obtain ⟨transition, made, arrived⟩ : ∃ transition,
        navigator.makeChoice generator .blank game.state (.int place) game.dice =
          .ok transition game.dice ∧ transition.state.Idle seed choice.target :=
      makeChoice_idle plays linked listed there inside (seeded_later idle there seeded) stands goesOn
        offered free .blank game.dice
    have called : navigator.call generator game ⟨.blank, .int place⟩ =
        ⟨transition.state, game.dice, game.answers ++ [.ok transition]⟩ := call_taken made
    refine ⟨calls ++ [⟨.blank, .int place⟩], ?_⟩
    rw [play_concat, called]
    refine ⟨fun answer member => ?_, arrived⟩
    rcases List.mem_append.mp member with earlier | last
    · exact succeed answer earlier
    · exact ⟨transition, List.mem_singleton.mp last⟩

theorem path_of_reaches [Host] (plays : navigator.stories = library.source) (linked : library.Linked)
    (listed : (id, story) ∈ library.stories) (fresh : state.Fresh (.text id) (.text story.start))
    {dice : σ} (reaches : navigator.Reaches generator state dice here) :
    ∃ history names, story.Path history names here := by
  obtain ⟨calls, _, current⟩ := reaches
  have stays : ∃ history names there,
      (navigator.play generator (.opening state dice) calls).state.OnPath story id history names
        there := by
    refine play_induction (fun game => ∃ history names there,
      game.state.OnPath story id history names there) calls ?_ ?_ ⟨_, _, _, fresh.onPath⟩
    · exact fun game call failure after on _ => on
    · rintro game call transition after ⟨history, names, there, on⟩ taken
      exact taken.onPath plays linked listed on
  obtain ⟨history, names, there, on⟩ := stays
  obtain rfl := Value.text.inj (on.current.symm.trans current)
  exact ⟨history, names, on.path⟩

theorem play_unseeded [Host] {fault : Fault} (unseeded : nextSeed? state = .error fault) (dice : σ)
    (calls : List Call) :
    (navigator.play generator (.opening state dice) calls).state = state := by
  refine call_induction (·.state = state) calls (fun _ _ _ _ same _ => same) ?_ rfl
  rintro game call transition after rfl made
  obtain ⟨next, _, seeded, _⟩ := draw_bind_eq_ok.mp made
  rw [unseeded] at seeded
  cases (draw_lift_eq_ok.mp seeded).1

end Navigator

namespace Story
variable {story : Story} {name : String}

theorem leads_of_path (closed : story.Closed) {history : List ChoiceRecord} {names : List String}
    (path : story.Path history names name) :
    Graph.Leads story.nodes (.text story.start) name := by
  induction path with
  | start => exact .start rfl closed.start
  | on _ stands _ offered _ ih =>
    exact .choice ih stands (List.mem_of_getElem? offered) (closed.target_mem stands offered)

/-- Behind endings that lead nowhere there is nothing. -/
theorem path_of_leads
    (closing : ∀ entry ∈ story.nodes, entry.2.isTerminal = true → entry.2.choices = [])
    (leads : Graph.Leads story.nodes (.text story.start) name) :
    ∃ history names, story.Path history names name := by
  induction leads with
  | start given _ =>
    obtain rfl := Value.text.inj given
    exact ⟨_, _, .start⟩
  | @choice here node choice _ stands offered _ ih =>
    obtain ⟨history, names, before⟩ := ih
    obtain ⟨place, offered⟩ := List.mem_iff_getElem?.mp offered
    have goesOn : node.isTerminal = false := by
      obtain ⟨entry, member, _, rfl⟩ := Assoc.mem_of_get? stands
      by_contra ended
      rw [closing entry member (by simpa using ended)] at offered
      cases offered
    exact ⟨_, _, before.on stands goesOn offered (.known .blank)⟩

theorem mem_issues_unreachable {found : List Issue} (checked : story.issues = .ok found) :
    .unreachable name ∈ found ↔
      name ∈ story.nodes.names ∧ ¬Graph.Leads story.nodes (.text story.start) name := by
  have mine : .unreachable name ∈ found ↔
      .unreachable name ∈ found.filter (·.code == "UNREACHABLE_NODE") := by
    simp [List.mem_filter, Issue.code]
  rw [mine, Graph.filter_unreachable checked, List.mem_map, ← Graph.mem_unreachable]
  simp

end Story

namespace Navigator
variable {σ : Type} {navigator : Navigator} {state : GameState} {library : Library} {story : Story}
  {id name : String}

/-- In a loaded story of bare choices, playing comes to a node if a path of choices leads there that
goes on through no ending, unless the seed cannot be used, which stops every call. What is reported
as unreachable is never come to; what is neither come to nor reported stands behind endings, and
there is no such node if endings have no choices. -/
theorem play_reaches [Host] {document : Dict} (loaded : Library.ofDocument document = .ok library)
    (listed : library.story (.text id) = .ok story) (plays : navigator.stories = library.source)
    (bare : story.IsBare) (fresh : state.Fresh (.text id) (.text story.start))
    (member : name ∈ story.nodes.names) (generator : Generator σ) (dice : σ) :
    ((∃ seed, nextSeed? state = .ok seed) → (navigator.Reaches generator state dice name ↔
      ∃ history names, story.Path history names name)) ∧
    ((∃ fault, nextSeed? state = .error fault) →
      (navigator.Reaches generator state dice name ↔ name = story.start)) ∧
    (∀ found, story.issues = .ok found →
      (.unreachable name ∈ found →
        ¬navigator.Reaches generator state dice name ∧ ¬story.BehindEndings name) ∧
      ((∃ seed, nextSeed? state = .ok seed) → (¬navigator.Reaches generator state dice name ↔
        .unreachable name ∈ found ∨ story.BehindEndings name))) ∧
    ((∀ entry ∈ story.nodes, entry.2.isTerminal = true → entry.2.choices = []) →
      ¬story.BehindEndings name) := by
  have linked := (Library.ofDocument_linked loaded).1
  have listed := Library.story_eq_ok listed
  have closed := linked.closed _ listed
  have followed (reaches : navigator.Reaches generator state dice name) :
      ∃ history names, story.Path history names name :=
    path_of_reaches plays linked listed fresh reaches
  have reached (seeded : ∃ seed, nextSeed? state = .ok seed) :
      navigator.Reaches generator state dice name ↔
        ∃ history names, story.Path history names name := by
    refine ⟨followed, fun ⟨history, names, path⟩ => ?_⟩
    obtain ⟨calls, succeed, there⟩ :=
      play_of_path plays linked listed bare fresh.idle seeded dice path
    exact ⟨calls, succeed, there.current⟩
  refine ⟨reached, ?_, fun found checked => ⟨fun reported => ?_, fun seeded => ?_⟩, ?_⟩
  · rintro ⟨fault, unseeded⟩
    have current : state.currentNodeId = .text story.start := fresh.fields.2.1
    constructor
    · rintro ⟨calls, _, there⟩
      rw [play_unseeded unseeded, current] at there
      exact (Value.text.inj there).symm
    · rintro rfl
      exact ⟨[], List.forall_mem_nil _, current⟩
  · have lost := ((Story.mem_issues_unreachable checked).mp reported).2
    refine ⟨fun reaches => ?_, fun behind => lost behind.1⟩
    obtain ⟨history, names, path⟩ := followed reaches
    exact lost (Story.leads_of_path closed path)
  · rw [reached seeded, Story.mem_issues_unreachable checked, Story.BehindEndings]
    constructor
    · intro unplayed
      by_cases leads : Graph.Leads story.nodes (.text story.start) name
      · exact .inr ⟨leads, unplayed⟩
      · exact .inl ⟨member, leads⟩
    · rintro (⟨_, lost⟩ | ⟨_, unplayed⟩)
      · rintro ⟨history, names, path⟩
        exact lost (Story.leads_of_path closed path)
      · exact unplayed
  · rintro closing ⟨leads, unplayed⟩
    exact unplayed (Story.path_of_leads closing leads)

/-- An island that only the choice of an ending leads to. -/
def lagoon : Dict :=
  [(.text "harbour", .object [("start", .text "pier"), ("nodes", .object [
    ("pier", .object [("choices", .list [
      .object [("text", .text "Set sail"), ("target", .text "sea")]])]),
    ("sea", .object [("is_terminal", .bool true), ("choices", .list [
      .object [("text", .text "Swim ashore"), ("target", .text "island")]])]),
    ("island", .object [("is_terminal", .bool true)])])])]

def sail : StoryChoice := Story.Lighthouse.choice "pier:0" "Set sail" "sea"

def swim : StoryChoice := Story.Lighthouse.choice "sea:0" "Swim ashore" "island"

def lagoonStory : Story where
  id := "harbour"
  title := "harbour"
  start := "pier"
  nodes :=
    [("pier", ⟨"pier", "", none, none, [sail], [], false⟩),
      ("sea", ⟨"sea", "", none, none, [swim], [], true⟩),
      ("island", ⟨"island", "", none, none, [], [], true⟩)]

theorem lagoon_loaded : Library.ofDocument lagoon = .ok ⟨[("harbour", lagoonStory)]⟩ := rfl

theorem lagoonStory_isBare : lagoonStory.IsBare := by
  have bare : sail.IsBare ∧ swim.IsBare := ⟨⟨rfl, rfl, rfl⟩, ⟨rfl, rfl, rfl⟩⟩
  simp [Story.IsBare, lagoonStory, bare]

theorem lagoonStory_behindEndings : lagoonStory.BehindEndings "island" := by
  constructor
  · have pier : Graph.Leads lagoonStory.nodes (.text "pier") "pier" := .start rfl (by decide)
    have sea : Graph.Leads lagoonStory.nodes (.text "pier") sail.target :=
      .choice pier rfl (.head _) (by decide)
    have island : Graph.Leads lagoonStory.nodes (.text "pier") swim.target :=
      .choice sea rfl (.head _) (by decide)
    exact island
  · generalize last : "island" = name
    rintro ⟨history, names, path⟩
    cases path with
    | start => simp [lagoonStory] at last
    | on before stands goesOn offered time =>
      -- The one node that the story goes on from leads to the sea.
      obtain ⟨entry, member, _, rfl⟩ := Assoc.mem_of_get? stands
      have offered := List.mem_of_getElem? offered
      simp [lagoonStory] at member
      rcases member with rfl | rfl | rfl
      · obtain rfl := List.mem_singleton.mp offered
        simp [sail, Story.Lighthouse.choice] at last
      · cases goesOn
      · cases goesOn

open scoped Host in
/-- The island is not reported, though no game comes to it. -/
theorem play_reaches_lagoon : ∃ library found, Library.ofDocument lagoon = .ok library ∧
    library.story (.text "harbour") = .ok lagoonStory ∧ lagoonStory.IsBare ∧
    lagoonStory.issues = .ok found ∧ .unreachable "island" ∉ found ∧
    ¬Reaches ⟨library.source, []⟩ RandomSource.generator ashore (.fixed []) "island" := by
  obtain ⟨found, checked⟩ : ∃ found, lagoonStory.issues = .ok found :=
    ok_of_isOk (by decide +kernel)
  let library : Library := ⟨[("harbour", lagoonStory)]⟩
  let navigator : Navigator := ⟨library.source, []⟩
  have listed : library.story (.text "harbour") = .ok lagoonStory := rfl
  have plays : navigator.stories = library.source := rfl
  have fresh : ashore.Fresh (.text "harbour") (.text lagoonStory.start) := .usual ..
  have member : "island" ∈ lagoonStory.nodes.names := by decide
  have behind := lagoonStory_behindEndings
  obtain ⟨_, _, told, _⟩ := play_reaches lagoon_loaded listed plays lagoonStory_isBare fresh member
    RandomSource.generator (.fixed [])
  obtain ⟨apart, unplayed⟩ := told found checked
  exact ⟨library, found, lagoon_loaded, listed, lagoonStory_isBare, checked,
    fun reported => (apart reported).2 behind, (unplayed ⟨none, rfl⟩).mpr (.inr behind)⟩

end Navigator
end Gamebook
