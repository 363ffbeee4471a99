import Gamebook.Proofs.Play.Progress
import Gamebook.Proofs.Play.Refusal
import Gamebook.Proofs.Play.Run
import Gamebook.Proofs.State.Visits
import Gamebook.Proofs.Story.Loading

/-!
A game in a loaded story stays in it: its log is a path of choices from the start to the current
node, and the visited nodes are those on the path, each where it came first.
-/
namespace Gamebook

/-- Choices of a story that lead from its start to a node, as a log keeps them, with the nodes on
the way. -/
inductive Story.Path (story : Story) : List ChoiceRecord → List String → String → Prop
  | start : Path story [] [story.start] story.start
  | on {history : List ChoiceRecord} {names : List String} {here : String} {node : StoryNode}
      {place : Nat} {choice : StoryChoice} (before : Path story history names here)
      (stands : story.nodes.get? here = some node) (goesOn : node.isTerminal = false)
      (offered : node.choices[place]? = some choice) (time : Loose Timestamp) :
      Path story (history ++ [⟨.text here, .int place, .text choice.text, time⟩])
        (names ++ [choice.target]) choice.target

theorem withVisit_eraseDups (names : List String) (name : String) :
    withVisit (names.eraseDups.map .text) (.text name) = (names ++ [name]).eraseDups.map .text := by
  have among : ((Value.text name).isAmong (names.eraseDups.map .text) = true) ↔ name ∈ names := by
    simp [Value.text_isAmong_iff]
  rw [eraseDups_concat, withVisit]
  by_cases inside : name ∈ names
  · rw [if_pos (among.mpr inside), if_pos inside]
  · rw [if_neg (fun there => inside (among.mp there)), if_neg inside]
    simp

namespace Story.Closed
variable {story : Story} {history : List ChoiceRecord} {names : List String} {here : String}

theorem target_mem (closed : story.Closed) {node : StoryNode} {choice : StoryChoice} {place : Nat}
    (stands : story.nodes.get? here = some node) (offered : node.choices[place]? = some choice) :
    choice.target ∈ story.nodes.names := by
  obtain ⟨entry, member, _, rfl⟩ := Assoc.mem_of_get? stands
  exact closed.targets entry member choice (List.mem_of_getElem? offered)

theorem path_mem (closed : story.Closed) (path : story.Path history names here) :
    here ∈ story.nodes.names ∧ ∀ name ∈ names, name ∈ story.nodes.names := by
  induction path with
  | start => exact ⟨closed.start, by simpa using closed.start⟩
  | on before stands goesOn offered time ih =>
    have inside := closed.target_mem stands offered
    refine ⟨inside, fun name member => ?_⟩
    rcases List.mem_append.mp member with earlier | last
    · exact ih.2 name earlier
    · rw [List.mem_singleton.mp last]
      exact inside

theorem visited_le (closed : story.Closed) (path : story.Path history names here) :
    names.eraseDups.length ≤ story.nodes.length := by
  have within : names.eraseDups ⊆ story.nodes.names := fun name member =>
    (closed.path_mem path).2 name (List.mem_eraseDups.mp member)
  simpa [Table.names, Assoc.keys] using (nodup_eraseDups names).length_le_of_subset within

end Story.Closed

/-- A state at the end of a path, with the nodes of the path as those visited. -/
structure GameState.OnPath (story : Story) (id : String) (history : List ChoiceRecord)
    (names : List String) (here : String) (state : GameState) : Prop where
  storyId : state.storyId = .text id
  current : state.currentNodeId = .text here
  log : state.choicesHistory = .known (history.map .known)
  path : story.Path history names here
  visits : state.visitedNodes = .known (names.eraseDups.map .text)

theorem GameState.Fresh.onPath {story : Story} {id : String} {state : GameState}
    (fresh : state.Fresh (.text id) (.text story.start)) :
    state.OnPath story id [] [story.start] story.start := by
  obtain ⟨storyId, current, visits, log, _⟩ := fresh.fields
  exact ⟨storyId, current, log, .start, by simp [visits, List.eraseDups_cons]⟩

namespace Navigator
variable {navigator : Navigator} {library : Library} {story : Story} {id : String}
  {state : GameState} {history : List ChoiceRecord} {names : List String} {here : String}

theorem node_of_mem (plays : navigator.stories = library.source) (linked : library.Linked)
    (listed : (id, story) ∈ library.stories) {name : String} (inside : name ∈ story.nodes.names) :
    ∃ found, navigator.node (.text name) = .ok found ∧ story.nodes.get? name = some found ∧
      found.id = name := by
  obtain ⟨found, indexed, stands, named⟩ := Library.node?_of_mem linked listed inside
  refine ⟨found, ?_, stands, named⟩
  simp [node, Value.isKey, Value.text?, plays, indexed]

theorem currentNode_of_path (plays : navigator.stories = library.source) (linked : library.Linked)
    (listed : (id, story) ∈ library.stories) (on : state.OnPath story id history names here) :
    ∃ found, navigator.currentNode state = .ok found ∧ story.nodes.get? here = some found ∧
      found.id = here := by
  rw [currentNode, on.current]
  exact node_of_mem plays linked listed ((linked.closed _ listed).path_mem on.path).1

theorem Taken.onPath [Host] {now : Timestamp} {index : Value} {transition : Transition}
    (plays : navigator.stories = library.source) (linked : library.Linked)
    (listed : (id, story) ∈ library.stories) (on : state.OnPath story id history names here)
    (taken : navigator.Taken now state index transition) :
    ∃ history names here, transition.state.OnPath story id history names here := by
  have own := taken.sameGame.story.trans on.storyId
  cases taken with
  | intro node target place choice copy changed applied log visits entries lasting rolls current
      goesOn named offered leads copied changes within logged visited held ticked =>
    have closed := linked.closed _ listed
    obtain ⟨stood, stoodCurrent, stands, stoodNamed⟩ := currentNode_of_path plays linked listed on
    obtain rfl := Except.ok.inj (stoodCurrent.symm.trans current)
    obtain ⟨led, ledFound, _, ledNamed⟩ :=
      node_of_mem plays linked listed (closed.target_mem stands offered)
    obtain rfl := Except.ok.inj (ledFound.symm.trans leads)
    rw [on.log, Loose.entries_known] at logged
    rw [on.visits] at visited
    cases logged
    cases visited
    have record : stood.record now place choice =
        ⟨.text here, .int place, .text choice.text, .known now⟩ := by
      rw [StoryNode.record, stoodNamed]
    refine ⟨_, _, _, own, congrArg Value.text ledNamed, congrArg (fun entry =>
        Loose.known (List.map Loose.known (history ++ [entry]))) record,
      on.path.on stands goesOn offered (.known now), ?_⟩
    simp only [GameState.arrived, ledNamed, withVisit_eraseDups]

theorem progress_of_path (plays : navigator.stories = library.source) (linked : library.Linked)
    (found : library.story (.text id) = .ok story)
    (on : state.OnPath story id history names here) :
    ∃ progress, navigator.progress state = .ok progress ∧
      progress.total = .int story.nodes.length ∧ progress.visited = names.eraseDups.length ∧
      progress.visited ≤ story.nodes.length := by
  have most := (linked.closed _ (Library.story_eq_ok found)).visited_le on.path
  have count : navigator.stories.nodeCount state.storyId = .ok (.int story.nodes.length) := by
    rw [plays, on.storyId]
    exact bind_eq_ok.mpr ⟨_, bind_eq_ok.mpr ⟨story, found, rfl⟩, rfl⟩
  obtain ⟨percentage, shared⟩ := Progress.percentOf_eq_ok (Nat.zero_le _) (by simpa using most)
  refine ⟨⟨_, names.eraseDups.length, percentage, history.length⟩, ?_, rfl, rfl, most⟩
  refine bind_eq_ok.mpr ⟨_, count, bind_eq_ok.mpr ⟨names.eraseDups.length, ?_, ?_⟩⟩
  · simp [on.visits, Loose.size]
  · refine bind_eq_ok.mpr ⟨percentage, Fault.lift_eq_ok.mpr shared, ?_⟩
    simp [GameState.choiceCount, on.log, Loose.size, bind, Except.bind, pure, Except.pure]

/-- A game of a story of a loaded library never fails to find anything and never leaves the story:
its log is a path from the start to the current node, and its visited nodes are those of the path
without repetitions, so no more of them are counted than the story has. -/
theorem play_path [Host] {document : Dict} {dice : RandomSource}
    (loaded : Library.ofDocument document = .ok library)
    (found : library.story (.text id) = .ok story) (plays : navigator.stories = library.source)
    (fresh : state.Fresh (.text id) (.text story.start)) (calls : List Call) :
    let game := navigator.play RandomSource.generator (.opening state dice) calls
    (∀ answer ∈ game.answers, ∀ kind key, answer ≠ .error (.notFound kind key)) ∧
    ∃ history names here, game.state.OnPath story id history names here ∧
      here ∈ story.nodes.names ∧
      ∃ progress, navigator.progress game.state = .ok progress ∧
        progress.total = .int story.nodes.length ∧ progress.visited = names.eraseDups.length ∧
        progress.visited ≤ story.nodes.length := by
  have linked := (Library.ofDocument_linked loaded).1
  have listed := Library.story_eq_ok found
  have closed := linked.closed _ listed
  have kept : let game := navigator.play RandomSource.generator (.opening state dice) calls
      (∀ answer ∈ game.answers, ∀ kind key, answer ≠ .error (.notFound kind key)) ∧
      ∃ history names here, game.state.OnPath story id history names here := by
    refine play_induction (fun game =>
      (∀ answer ∈ game.answers, ∀ kind key, answer ≠ .error (.notFound kind key)) ∧
      ∃ history names here, game.state.OnPath story id history names here) calls ?_ ?_ ?_
    · rintro game call failure after ⟨finds, history, names, here, on⟩ failed
      refine ⟨fun answer member => ?_, history, names, here, on⟩
      rcases List.mem_append.mp member with earlier | last
      · exact finds answer earlier
      · obtain rfl := List.mem_singleton.mp last
        obtain ⟨node, current, stands, _⟩ := currentNode_of_path plays linked listed on
        have leads : ∀ choice ∈ node.choices,
            ∃ target, navigator.node (.text choice.target) = .ok target := by
          intro choice member
          obtain ⟨place, offered⟩ := List.mem_iff_getElem?.mp member
          obtain ⟨target, leads, _⟩ :=
            node_of_mem plays linked listed (closed.target_mem stands offered)
          exact ⟨target, leads⟩
        intro kind key same
        exact makeChoice_isOther current leads _ _ _ failed kind key (Except.error.inj same)
    · rintro game call transition after ⟨finds, history, names, here, on⟩ taken
      refine ⟨fun answer member => ?_, taken.onPath plays linked listed on⟩
      rcases List.mem_append.mp member with earlier | last
      · exact finds answer earlier
      · obtain rfl := List.mem_singleton.mp last
        intro kind key same
        cases same
    · exact ⟨by simp [Playthrough.opening], _, _, _, fresh.onPath⟩
  obtain ⟨finds, history, names, here, on⟩ := kept
  exact ⟨finds, history, names, here, on, (closed.path_mem on.path).1,
    progress_of_path plays linked found on⟩

def harbour : Dict :=
  [(.text "harbour", .object [("start", .text "pier"), ("nodes", .object [
    ("pier", .object [("choices", .list [
      .object [("text", .text "Set sail"), ("target", .text "sea")]])]),
    ("sea", .object [("is_terminal", .bool true)])])])]

open scoped Host in
theorem play_path_harbour : ∃ library story, Library.ofDocument harbour = .ok library ∧
    library.story (.text "harbour") = .ok story ∧ ∃ history names here,
      (play ⟨library.source, []⟩ RandomSource.generator (.opening (.create Story.Lighthouse.morning
        (.text "sailor") (.text "harbour") (.text story.start) (.text "first") .null) (.fixed []))
        [⟨Story.Lighthouse.morning, .int 0⟩]).state.OnPath story "harbour" history names here ∧
      names.eraseDups.length ≤ story.nodes.length := by
  obtain ⟨story, read⟩ : ∃ story,
      (Library.ofDocument harbour >>= fun library => library.story (.text "harbour")) = .ok story :=
    ok_of_isOk (by decide +kernel)
  obtain ⟨library, loaded, found⟩ := bind_eq_ok.mp read
  obtain ⟨_, history, names, here, on, _, progress, _, _, count, bound⟩ :=
    play_path loaded found (rfl : (Navigator.mk library.source []).stories = library.source)
      (.usual ..) [⟨Story.Lighthouse.morning, .int 0⟩]
  exact ⟨library, story, loaded, found, history, names, here, on, count ▸ bound⟩

end Navigator
end Gamebook
