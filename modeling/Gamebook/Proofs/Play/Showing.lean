import Gamebook.Proofs.Condition.Checking
import Gamebook.Proofs.Play.Progress
import Gamebook.Proofs.Play.Sound
import Gamebook.Proofs.Story.Loading

/-!
When a state can be shown: its node has to be there, no condition of a choice on it may jam, and its
progress has to be known.
-/
namespace Gamebook

theorem choiceCount_contents (contents : GameState.Contents) :
    contents.state.choiceCount = .ok contents.history.length := by
  simp [GameState.choiceCount, GameState.Contents.state, Loose.size]

/-- Contents with texts where conditions need keys. -/
structure GameState.Contents.Keyed (contents : GameState.Contents) : Prop where
  visits : ∀ visit ∈ contents.visits, visit.text?.isSome = true
  types : ∀ effect ∈ contents.effects, effect.type.text?.isSome = true

theorem GameState.Contents.Sound.keyed {contents : GameState.Contents} (sound : contents.Sound) :
    contents.Keyed := ⟨sound.visits, fun effect member => (sound.effects effect member).type⟩

namespace Condition.Context

theorem presence_texts {values : List Value} (texts : ∀ value ∈ values, value.text?.isSome = true) :
    presence values = .ok (Assoc.ofPairs (values.map (·, .bool true))) := by
  unfold presence
  rw [if_pos]
  rw [List.all_eq_true]
  intro value member
  have text := texts value member
  cases value with
  | text content => rfl
  | _ => cases text

/-- What conditions see of contents. -/
def ofContents (contents : GameState.Contents) : Context where
  stats := contents.stats
  wallets := contents.wallets
  inventory := contents.inventory
  flags := contents.flags
  statusEffects := contents.effects
  hasStatusEffect := Assoc.ofPairs ((contents.effects.map (·.type)).map (·, .bool true))
  visitedNodes := contents.visits
  hasVisited := Assoc.ofPairs (contents.visits.map (·, .bool true))
  currentNodeId := .text contents.node
  choiceCount := contents.history.length

theorem ofState_eq_ok {contents : GameState.Contents} (keyed : contents.Keyed) :
    ofState contents.state = .ok (ofContents contents) := by
  have types : ∀ type ∈ contents.effects.map (·.type), type.text?.isSome = true := by
    intro type member
    obtain ⟨effect, inside, rfl⟩ := List.mem_map.mp member
    exact keyed.types effect inside
  refine bind_eq_ok.mpr ⟨_, Loose.entries_known contents.effects, ?_⟩
  refine bind_eq_ok.mpr ⟨contents.stats, rfl, bind_eq_ok.mpr ⟨contents.wallets, rfl, ?_⟩⟩
  refine bind_eq_ok.mpr ⟨contents.inventory, rfl, bind_eq_ok.mpr ⟨contents.flags, rfl, ?_⟩⟩
  refine bind_eq_ok.mpr ⟨_, presence_texts types, bind_eq_ok.mpr ⟨contents.visits, rfl, ?_⟩⟩
  exact bind_eq_ok.mpr ⟨_, presence_texts keyed.visits, bind_eq_ok.mpr
    ⟨_, choiceCount_contents contents, rfl⟩⟩

end Condition.Context

namespace Navigator
variable {navigator : Navigator} {library : Library} {contents : GameState.Contents}
  {failure : Failure}

variable {state : GameState} {node : StoryNode} {choice : StoryChoice} {place : Nat}

theorem availability_eq_error_iff : navigator.availability choice state = .error failure ↔
    choice.conditions ≠ [] ∧ ∃ fault, failure = .fault fault ∧
      (Condition.Context.ofState state = .error fault ∨ fault = .badValue ∧
        ∃ context, Condition.Context.ofState state = .ok context ∧
          ∃ condition ∈ choice.conditions, Condition.Jams navigator.predicates context condition) := by
  unfold availability
  simp only [Fault.lift_eq_error, Condition.availability_error]
  constructor
  · rintro ⟨fault, ⟨guarded, cause⟩, rfl⟩
    exact ⟨guarded, fault, rfl, cause⟩
  · rintro ⟨guarded, fault, rfl, cause⟩
    exact ⟨fault, ⟨guarded, cause⟩, rfl⟩

theorem availability_checkable :
    (∃ availability, navigator.availability choice state = .ok availability) ↔
      Condition.Checkable navigator.predicates choice.conditions state := by
  simp only [availability, Fault.lift_eq_ok, Condition.checkable_iff]

theorem view_eq_ok_iff {view : ChoiceView} : navigator.view state place choice = .ok view ↔
    ∃ availability, navigator.availability choice state = .ok availability ∧
      view = ⟨place, choice.id, choice.text, choice.target, availability.available,
        availability.failed, !choice.rollRequirements.isEmpty⟩ :=
  bind_eq_ok.trans (exists_congr fun _ => and_congr_right fun _ => pure_eq_ok.trans eq_comm)

theorem choices_eq_ok_iff {views : List ChoiceView}
    (here : navigator.currentNode state = .ok node) :
    navigator.choices state = .ok views ↔
      List.Forall₂ (fun item view => navigator.view state item.2 item.1 = .ok view)
        node.choices.zipIdx views := by
  unfold choices
  rw [here]
  exact mapM_eq_ok

/-- The choices of a node can be shown exactly if the conditions of each of them can be checked. -/
theorem choices_shown (here : navigator.currentNode state = .ok node) :
    (∃ views, navigator.choices state = .ok views) ↔ ∀ choice ∈ node.choices,
      Condition.Checkable navigator.predicates choice.conditions state := by
  constructor
  · rintro ⟨views, shown⟩ choice member
    obtain ⟨place, offered⟩ := List.mem_iff_getElem?.mp member
    have listed : (choice, place) ∈ node.choices.zipIdx := List.mem_zipIdx_iff_getElem?.mpr offered
    obtain ⟨view, _, viewed⟩ := source_of_forall₂ ((choices_eq_ok_iff here).mp shown).flip listed
    obtain ⟨availability, checked, _⟩ := view_eq_ok_iff.mp viewed
    exact availability_checkable.mp ⟨availability, checked⟩
  · intro checkable
    unfold choices
    rw [here]
    refine mapM_ok fun item listed => ?_
    obtain ⟨availability, checked⟩ :=
      availability_checkable.mpr (checkable _ (List.fst_mem_of_mem_zipIdx listed))
    exact ⟨_, view_eq_ok_iff.mpr ⟨availability, checked, rfl⟩⟩

/-- No condition on a node jams in what conditions see of contents. -/
def Answers (navigator : Navigator) (contents : GameState.Contents) (node : StoryNode) : Prop :=
  ∀ choice ∈ node.choices, ∀ condition ∈ choice.conditions,
    ¬ Condition.Jams navigator.predicates (.ofContents contents) condition

/-- A condition jams on the node of contents. -/
def Jammed (navigator : Navigator) (contents : GameState.Contents) : Prop :=
  ∃ node, navigator.stories.node? contents.node = some node ∧ ¬ navigator.Answers contents node

theorem choices_eq_ok (keyed : contents.Keyed)
    (here : navigator.currentNode contents.state = .ok node) :
    (∃ choices, navigator.choices contents.state = .ok choices) ↔ navigator.Answers contents node := by
  refine (choices_shown here).trans (forall₂_congr fun choice _ => ?_)
  rw [Condition.Checkable, Condition.Context.ofState_eq_ok keyed]
  constructor
  · rintro (none | ⟨_, ⟨⟩, answers⟩) condition member
    · simp [none] at member
    · exact answers condition member
  · exact fun answers => .inr ⟨_, rfl, answers⟩

theorem choices_eq_error (keyed : contents.Keyed)
    (here : navigator.currentNode contents.state = .ok node) :
    navigator.choices contents.state = .error failure ↔ failure = .fault .badValue ∧
      ∃ choice ∈ node.choices, ∃ condition ∈ choice.conditions,
        Condition.Jams navigator.predicates (.ofContents contents) condition := by
  have causes : ∀ problem, navigator.choices contents.state = .error problem →
      problem = .fault .badValue ∧ ∃ choice ∈ node.choices, ∃ condition ∈ choice.conditions,
        Condition.Jams navigator.predicates (.ofContents contents) condition := by
    intro problem failed
    unfold choices at failed
    rw [here] at failed
    obtain ⟨before, item, after, listed, _, unviewed⟩ := mapM_eq_error.mp failed
    obtain ⟨_, fault, rfl, cause⟩ := availability_eq_error_iff.mp (bind_pure_eq_error.mp unviewed)
    rw [Condition.Context.ofState_eq_ok keyed] at cause
    obtain ⟨rfl, context, same, condition, guarded, jams⟩ := cause.resolve_left nofun
    obtain rfl := Except.ok.inj same
    have member : item ∈ node.choices.zipIdx := listed ▸ List.mem_append_right before (.head _)
    exact ⟨rfl, item.1, List.fst_mem_of_mem_zipIdx member, condition, guarded, jams⟩
  refine ⟨causes failure, ?_⟩
  rintro ⟨rfl, choice, offered, condition, guarded, jams⟩
  cases shown : navigator.choices contents.state with
  | error problem => rw [(causes problem shown).1]
  | ok views =>
    exact absurd jams ((choices_eq_ok keyed here).mp ⟨views, shown⟩ choice offered condition guarded)

/-- The story of a state is there, and what was visited is not past counting. -/
def KnowsProgress (library : Library) (contents : GameState.Contents) : Prop :=
  ∃ story, library.story (.text contents.story) = .ok story ∧
    ∃ percentage, Progress.percentOf contents.visits.length (.int story.nodes.length) = .ok percentage

/-- Progress in a story that is there is known for any number of visits within reason. -/
theorem knowsProgress_of_le {story : Story} {power : Nat}
    (found : library.story (.text contents.story) = .ok story) (bound : power ≤ 1000)
    (most : contents.visits.length ≤ story.nodes.length * 2 ^ power) :
    KnowsProgress library contents := ⟨story, found, Progress.percentOf_eq_ok bound most⟩

/-- Why the progress of contents is not known. -/
inductive HidesProgress (library : Library) (contents : GameState.Contents) : Failure → Prop
  | noStory (missing : library.stories.get? contents.story = none) :
      HidesProgress library contents (.noEntry (.text contents.story))
  | tooMany {story : Story} (found : library.stories.get? contents.story = some story)
      (past : Progress.percentOf contents.visits.length (.int story.nodes.length) = .error .tooLarge) :
      HidesProgress library contents (.fault .tooLarge)

theorem HidesProgress.not_isForeseen (hides : HidesProgress library contents failure) :
    failure.isForeseen = false := by
  cases hides <;> rfl

theorem hidesProgress_iff :
    (∃ failure, HidesProgress library contents failure) ↔ ¬ KnowsProgress library contents := by
  unfold KnowsProgress
  simp only [Library.story, lookUp_text_eq_ok]
  constructor
  · rintro ⟨_, missing | ⟨found, past⟩⟩ ⟨story, known, percentage, counted⟩
    · cases missing.symm.trans known
    · obtain rfl := Option.some.inj (found.symm.trans known)
      cases past.symm.trans counted
  · intro unknown
    cases found : library.stories.get? contents.story with
    | none => exact ⟨_, .noStory found⟩
    | some story =>
      cases counted : Progress.percentOf contents.visits.length (.int story.nodes.length) with
      | ok percentage => exact absurd ⟨story, found, percentage, counted⟩ unknown
      | error fault =>
        obtain rfl := Progress.percentOf_eq_error counted
        exact ⟨_, .tooMany found counted⟩

theorem nodeCount_eq_ok {total : Value} : library.source.nodeCount (.text contents.story) = .ok total ↔
    ∃ story, library.stories.get? contents.story = some story ∧ total = .int story.nodes.length := by
  simp only [← lookUp_text_eq_ok]
  constructor
  · intro ok
    obtain ⟨count, counted, rest⟩ := bind_eq_ok.mp ok
    obtain ⟨story, found, same⟩ := bind_eq_ok.mp counted
    obtain rfl := pure_eq_ok.mp same
    exact ⟨story, found, (pure_eq_ok.mp rest).symm⟩
  · rintro ⟨story, found, rfl⟩
    exact bind_eq_ok.mpr ⟨_, bind_eq_ok.mpr ⟨story, found, rfl⟩, rfl⟩

theorem nodeCount_eq_error : library.source.nodeCount (.text contents.story) = .error failure ↔
    library.stories.get? contents.story = none ∧ failure = .noEntry (.text contents.story) := by
  rw [← lookUp_text_eq_error]
  constructor
  · intro failed
    rcases bind_eq_error.mp failed with failed | ⟨_, _, ⟨⟩⟩
    rcases bind_eq_error.mp failed with failed | ⟨_, _, ⟨⟩⟩
    exact failed
  · intro failed
    exact bind_eq_error.mpr (.inl (bind_eq_error.mpr (.inl failed)))

theorem progress_eq_error {navigator : Navigator} (plays : navigator.stories = library.source) :
    navigator.progress contents.state = .error failure ↔ HidesProgress library contents failure := by
  have counts : navigator.progress contents.state = (do
      let total ← library.source.nodeCount (.text contents.story)
      let percentage ← Fault.lift (Progress.percentOf contents.visits.length total)
      return ⟨total, contents.visits.length, percentage, ← Fault.lift contents.state.choiceCount⟩) := by
    rw [progress, plays]
    rfl
  rw [counts]
  constructor
  · intro failed
    rcases bind_eq_error.mp failed with missing | ⟨total, counted, failed⟩
    · obtain ⟨unlisted, rfl⟩ := nodeCount_eq_error.mp missing
      exact .noStory unlisted
    obtain ⟨story, found, rfl⟩ := nodeCount_eq_ok.mp counted
    rcases bind_eq_error.mp failed with past | ⟨_, _, failed⟩
    · obtain ⟨fault, uncounted, rfl⟩ := Fault.lift_eq_error.mp past
      obtain rfl := Progress.percentOf_eq_error uncounted
      exact .tooMany found uncounted
    rw [choiceCount_contents] at failed
    cases failed
  · rintro (missing | ⟨found, past⟩)
    · exact bind_eq_error.mpr (.inl (nodeCount_eq_error.mpr ⟨missing, rfl⟩))
    · refine bind_eq_error.mpr (.inr ⟨_, nodeCount_eq_ok.mpr ⟨_, found, rfl⟩, ?_⟩)
      exact bind_eq_error.mpr (.inl (Fault.lift_eq_error.mpr ⟨_, past, rfl⟩))

/-- Whether the progress is known depends on what a library serves. -/
theorem KnowsProgress.of_source {other : Library} (known : KnowsProgress library contents)
    (same : library.source = other.source) : KnowsProgress other contents := by
  refine by_contra fun unknown => ?_
  obtain ⟨failure, hides⟩ := hidesProgress_iff.mpr unknown
  let navigator : Navigator := ⟨library.source, []⟩
  have failed := (progress_eq_error (show navigator.stories = other.source from same)).mpr hides
  exact hidesProgress_iff.mp ⟨failure, (progress_eq_error rfl).mp failed⟩ known

end Navigator

namespace GameMaster
variable {σ : Type} {master : GameMaster σ} {library : Library} {contents : GameState.Contents}
  {failure : Failure}

/-- What keeps contents from being shown on a node that is there. -/
inductive Veils (master : GameMaster σ) (library : Library) (contents : GameState.Contents) :
    Failure → Prop
  | condition {node : StoryNode} {choice : StoryChoice} {condition : ConditionDef}
      (here : library.source.node? contents.node = some node) (offered : choice ∈ node.choices)
      (guarded : condition ∈ choice.conditions)
      (jams : Condition.Jams master.predicates (.ofContents contents) condition) :
      Veils master library contents (.fault .badValue)
  | progress {node : StoryNode} {failure : Failure}
      (here : library.source.node? contents.node = some node)
      (answers : Navigator.Answers ⟨library.source, master.predicates⟩ contents node)
      (hides : Navigator.HidesProgress library contents failure) : Veils master library contents failure

/-- Why contents cannot be shown. -/
inductive Hides (master : GameMaster σ) (library : Library) (contents : GameState.Contents) :
    Failure → Prop
  | noNode (missing : library.source.node? contents.node = none) :
      Hides master library contents (.notFound .node (.text contents.node))
  | veiled {failure : Failure} (veils : master.Veils library contents failure) :
      Hides master library contents failure

theorem Veils.not_isForeseen (veils : master.Veils library contents failure) :
    failure.isForeseen = false := by
  cases veils with
  | condition => rfl
  | progress here answers hides => exact hides.not_isForeseen

theorem Veils.stands (veils : master.Veils library contents failure) :
    ∃ node, library.source.node? contents.node = some node := by
  cases veils with
  | condition here => exact ⟨_, here⟩
  | progress here => exact ⟨_, here⟩

theorem view_eq_error (plays : master.stories = .ok library.source) (keyed : contents.Keyed) :
    master.view contents.state = .error failure ↔ master.Hides library contents failure := by
  have shows : master.view contents.state = (do
      let navigator := Navigator.mk library.source master.predicates
      let node ← navigator.node (.text contents.node)
      let choices ← navigator.choices contents.state
      let progress ← navigator.progress contents.state
      return ⟨.text contents.save, .text contents.story, node, choices, progress, contents.state⟩) := by
    rw [view, navigator, plays]
    rfl
  rw [shows]
  constructor
  · intro failed
    rcases bind_eq_error.mp failed with missing | ⟨node, here, failed⟩
    · obtain ⟨unlisted, rfl⟩ := Navigator.node_text_eq_error.mp missing
      exact .noNode unlisted
    have stands := Navigator.node_text_eq_ok.mp here
    rcases bind_eq_error.mp failed with unoffered | ⟨choices, offered, failed⟩
    · obtain ⟨rfl, choice, offered, condition, guarded, jams⟩ :=
        (Navigator.choices_eq_error keyed here).mp unoffered
      exact .veiled (.condition stands offered guarded jams)
    rcases bind_eq_error.mp failed with unknown | ⟨_, _, ⟨⟩⟩
    have answers := (Navigator.choices_eq_ok keyed here).mp ⟨choices, offered⟩
    exact .veiled (.progress stands answers ((Navigator.progress_eq_error rfl).mp unknown))
  · rintro (missing | ⟨stands, offered, guarded, jams⟩ | ⟨stands, answers, hides⟩)
    · exact bind_eq_error.mpr (.inl (Navigator.node_text_eq_error.mpr ⟨missing, rfl⟩))
    · have here : Navigator.node ⟨library.source, master.predicates⟩ (.text contents.node) = .ok _ :=
        Navigator.node_text_eq_ok.mpr stands
      refine bind_eq_error.mpr (.inr ⟨_, here, bind_eq_error.mpr (.inl ?_)⟩)
      exact (Navigator.choices_eq_error keyed here).mpr ⟨rfl, _, offered, _, guarded, jams⟩
    · have here : Navigator.node ⟨library.source, master.predicates⟩ (.text contents.node) = .ok _ :=
        Navigator.node_text_eq_ok.mpr stands
      obtain ⟨choices, offered⟩ := (Navigator.choices_eq_ok keyed here).mpr answers
      refine bind_eq_error.mpr (.inr ⟨_, here, bind_eq_error.mpr (.inr ⟨choices, offered, ?_⟩)⟩)
      exact bind_eq_error.mpr (.inl ((Navigator.progress_eq_error rfl).mpr hides))

theorem veils_iff {node : StoryNode} (here : library.source.node? contents.node = some node) :
    (∃ failure, master.Veils library contents failure) ↔
      ¬ (Navigator.Answers ⟨library.source, master.predicates⟩ contents node ∧
        Navigator.KnowsProgress library contents) := by
  constructor
  · rintro ⟨failure, ⟨stands, offered, guarded, jams⟩ | ⟨_, _, hides⟩⟩ ⟨answers, known⟩
    · obtain rfl := Option.some.inj (here.symm.trans stands)
      exact answers _ offered _ guarded jams
    · exact Navigator.hidesProgress_iff.mp ⟨failure, hides⟩ known
  · intro veiled
    by_cases answers : Navigator.Answers ⟨library.source, master.predicates⟩ contents node
    · obtain ⟨failure, hides⟩ :=
        Navigator.hidesProgress_iff.mpr fun known => veiled ⟨answers, known⟩
      exact ⟨failure, .progress here answers hides⟩
    · simp only [Navigator.Answers, not_forall, not_not, exists_prop] at answers
      obtain ⟨choice, offered, condition, guarded, jams⟩ := answers
      exact ⟨_, .condition here offered guarded jams⟩

/-- Where the node of a state is there, the state can be shown exactly if no condition on the node
jams and its progress is known. -/
theorem view_eq_ok (plays : master.stories = .ok library.source) (keyed : contents.Keyed)
    {node : StoryNode} (here : library.source.node? contents.node = some node) :
    (∃ view, master.view contents.state = .ok view) ↔
      Navigator.Answers ⟨library.source, master.predicates⟩ contents node ∧
        Navigator.KnowsProgress library contents := by
  rw [← not_iff_not, ← veils_iff here]
  cases shown : master.view contents.state with
  | ok view =>
    refine ⟨fun unshown => absurd ⟨view, rfl⟩ unshown, ?_⟩
    rintro ⟨failure, veils⟩
    cases shown.symm.trans ((view_eq_error plays keyed).mpr (.veiled veils))
  | error failure =>
    refine ⟨fun _ => ?_, fun _ => by rintro ⟨_, ⟨⟩⟩⟩
    cases (view_eq_error plays keyed).mp shown with
    | noNode missing => cases missing.symm.trans here
    | veiled veils => exact ⟨failure, veils⟩

end GameMaster
end Gamebook
