import Gamebook.Proofs.Outcome
import Gamebook.Proofs.Table
import Gamebook.Story.Document

/-!
What a loaded library is known to satisfy: the nodes of a story go by their own ids, its start and
all targets of its choices are among them, and no id stands for two nodes anywhere.
-/
namespace Gamebook

/-- A story that never leads out of itself. -/
structure Story.Closed (story : Story) : Prop where
  distinct : story.nodes.names.Nodup
  named : ∀ entry ∈ story.nodes, entry.2.id = entry.1
  start : story.start ∈ story.nodes.names
  targets : ∀ entry ∈ story.nodes, ∀ choice ∈ entry.2.choices, choice.target ∈ story.nodes.names

/-- Stories that are closed and share no nodes. -/
structure Library.Linked (library : Library) : Prop where
  closed : ∀ entry ∈ library.stories, entry.2.Closed
  distinct : library.nodes.names.Nodup

namespace Story.Document

theorem readNode_id {id : String} {document : Value} {node : StoryNode}
    (ok : readNode id document = .ok node) : node.id = id := by
  obtain ⟨_, _, rest⟩ := bind_eq_ok.mp ok
  obtain ⟨_, _, rest⟩ := bind_eq_ok.mp rest
  obtain ⟨_, _, rest⟩ := bind_eq_ok.mp rest
  obtain ⟨_, _, rest⟩ := bind_eq_ok.mp rest
  obtain ⟨_, _, rest⟩ := bind_eq_ok.mp rest
  obtain ⟨_, _, rest⟩ := bind_eq_ok.mp rest
  obtain ⟨_, _, rest⟩ := bind_eq_ok.mp rest
  obtain rfl := pure_eq_ok.mp rest
  rfl

theorem readNodes_cons {place : String} {taken : List String} {first : String × Value}
    {documents : Table Value} {nodes : Table StoryNode}
    (ok : readNodes place taken (first :: documents) = .ok nodes) :
    first.1 ∉ taken ∧ ∃ node others, readNode first.1 first.2 = .ok node ∧
      readNodes place (first.1 :: taken) documents = .ok others ∧
      nodes = (first.1, node) :: others := by
  unfold readNodes at ok
  split at ok
  · cases ok
  · rename_i free
    obtain ⟨node, read, rest⟩ := bind_eq_ok.mp ok
    obtain ⟨others, later, rest⟩ := bind_eq_ok.mp rest
    exact ⟨by simpa using free, node, others, read, later, (pure_eq_ok.mp rest).symm⟩

/-- Nodes that were read go by their ids, which are all different and none of those taken. -/
theorem readNodes_names {place : String} {taken : List String} {documents : Table Value}
    {nodes : Table StoryNode} (ok : readNodes place taken documents = .ok nodes) :
    (∀ entry ∈ nodes, entry.2.id = entry.1) ∧ nodes.names.Nodup ∧
      ∀ name ∈ nodes.names, name ∉ taken := by
  induction documents generalizing taken nodes with
  | nil =>
    cases ok
    exact ⟨nofun, .nil, nofun⟩
  | cons first documents ih =>
    obtain ⟨free, node, others, read, later, rfl⟩ := readNodes_cons ok
    obtain ⟨named, distinct, apart⟩ := ih later
    have new : first.1 ∉ others.names := fun member => apart _ member (.head _)
    refine ⟨List.forall_mem_cons.mpr ⟨readNode_id read, named⟩, List.nodup_cons.mpr ⟨new, distinct⟩,
      List.forall_mem_cons.mpr ⟨free, ?_⟩⟩
    exact fun name member inside => apart name member (.tail _ inside)

theorem checkTargets_closed {place : String} {nodes : Table StoryNode}
    (ok : checkTargets place nodes = .ok ()) :
    ∀ entry ∈ nodes, ∀ choice ∈ entry.2.choices, choice.target ∈ nodes.names := by
  intro entry member choice offered
  have checked := forM_eq_ok.mp (forM_eq_ok.mp ok entry member) choice offered
  split at checked
  · rename_i found
    exact Assoc.contains_iff_name.mp found
  · cases checked

theorem readStory_closed {taken : List String} {id : String} {document : Value} {story : Story}
    (ok : readStory taken id document = .ok story) :
    story.Closed ∧ story.id = id ∧ ∀ name ∈ story.nodes.names, name ∉ taken := by
  obtain ⟨_, _, rest⟩ := bind_eq_ok.mp ok
  obtain ⟨_, _, rest⟩ := bind_eq_ok.mp rest
  obtain ⟨start, _, rest⟩ := bind_eq_ok.mp rest
  obtain ⟨_, _, rest⟩ := bind_eq_ok.mp rest
  obtain ⟨nodes, read, rest⟩ := bind_eq_ok.mp rest
  obtain ⟨named, distinct, apart⟩ := readNodes_names read
  split at rest
  · cases rest
  · rename_i found
    obtain ⟨_, checked, rest⟩ := bind_eq_ok.mp rest
    obtain rfl := pure_eq_ok.mp rest
    refine ⟨⟨distinct, named, ?_, checkTargets_closed checked⟩, rfl, apart⟩
    exact Assoc.contains_iff_name.mp (by simpa using found)

theorem readStories_cons {taken : List String} {first : Value × Value} {documents : Dict}
    {stories : Table Story} (ok : readStories taken (first :: documents) = .ok stories) :
    ∃ id story others, first.1 = .text id ∧ readStory taken id first.2 = .ok story ∧
      readStories (taken ++ story.nodes.names) documents = .ok others ∧
      stories = (id, story) :: others := by
  obtain ⟨key, document⟩ := first
  cases key with
  | text id =>
    obtain ⟨story, read, rest⟩ := bind_eq_ok.mp ok
    obtain ⟨others, later, rest⟩ := bind_eq_ok.mp rest
    exact ⟨id, story, others, rfl, read, later, (pure_eq_ok.mp rest).symm⟩
  | _ => cases ok

/-- Stories that were read are closed and go by their ids, and no node stands in two of them. -/
theorem readStories_linked {taken : List String} {documents : Dict} {stories : Table Story}
    (ok : readStories taken documents = .ok stories) :
    (Library.mk stories).Linked ∧ (∀ entry ∈ stories, entry.2.id = entry.1) ∧
      ∀ name ∈ (Library.mk stories).nodes.names, name ∉ taken := by
  induction documents generalizing taken stories with
  | nil =>
    cases ok
    exact ⟨⟨nofun, .nil⟩, nofun, nofun⟩
  | cons first documents ih =>
    obtain ⟨id, story, others, _, read, later, rfl⟩ := readStories_cons ok
    obtain ⟨closed, named, apart⟩ := readStory_closed read
    obtain ⟨linked, allNamed, allApart⟩ := ih later
    have split : (Library.mk ((id, story) :: others)).nodes.names =
        story.nodes.names ++ (Library.mk others).nodes.names := by
      simp [Library.nodes, Table.names, Assoc.keys]
    refine ⟨⟨List.forall_mem_cons.mpr ⟨closed, linked.closed⟩, ?_⟩,
      List.forall_mem_cons.mpr ⟨named, allNamed⟩, ?_⟩
    · rw [split, List.nodup_append]
      refine ⟨closed.distinct, linked.distinct, ?_⟩
      rintro name here _ there rfl
      exact allApart name there (List.mem_append_right _ here)
    · intro name member
      rw [split] at member
      rcases List.mem_append.mp member with here | there
      · exact apart name here
      · exact fun inside => allApart name there (List.mem_append_left _ inside)

end Story.Document

theorem lookUp_text_eq_ok {α : Type} {table : Table α} {name : String} {entry : α} :
    lookUp table (.text name) = .ok entry ↔ table.get? name = some entry := by
  simp only [lookUp, Value.isKey, Value.text?, Option.bind_some, if_true]
  cases table.get? name <;> simp

theorem lookUp_text_eq_error {α : Type} {table : Table α} {name : String} {failure : Failure} :
    lookUp table (.text name) = .error failure ↔
      table.get? name = none ∧ failure = .noEntry (.text name) := by
  simp only [lookUp, Value.isKey, Value.text?, Option.bind_some, if_true]
  cases table.get? name <;> simp [eq_comm]

theorem text_of_lookUp {α : Type} {table : Table α} {key : Value} {entry : α}
    (found : lookUp table key = .ok entry) : ∃ name, key = .text name := by
  cases key with
  | text name => exact ⟨name, rfl⟩
  | _ =>
    simp only [lookUp, Value.text?, Option.bind_none] at found
    split at found <;> cases found

namespace Library
variable {library : Library} {story : Story}

theorem ofDocument_linked {document : Dict} (ok : ofDocument document = .ok library) :
    library.Linked ∧ ∀ entry ∈ library.stories, entry.2.id = entry.1 := by
  obtain ⟨stories, read, rest⟩ := bind_eq_ok.mp ok
  obtain rfl := pure_eq_ok.mp rest
  obtain ⟨linked, named, _⟩ := Story.Document.readStories_linked read
  exact ⟨linked, named⟩

theorem story_eq_ok {id : String} (ok : library.story (.text id) = .ok story) :
    (id, story) ∈ library.stories := by
  obtain ⟨entry, member, named, rfl⟩ : ∃ entry ∈ library.stories, (entry.1 == id) = true ∧
      entry.2 = story := Assoc.mem_of_get? (lookUp_text_eq_ok.mp ok)
  obtain rfl := beq_iff_eq.mp named
  exact member

theorem startNode_eq_ok {id start : Value} : library.source.startNode id = .ok start ↔
    ∃ name story, id = .text name ∧ library.story (.text name) = .ok story ∧
      start = .text story.start := by
  constructor
  · intro starts
    obtain ⟨first, started, startIs⟩ := bind_eq_ok.mp starts
    obtain ⟨story, found, firstIs⟩ := bind_eq_ok.mp started
    obtain rfl := pure_eq_ok.mp firstIs
    obtain rfl := pure_eq_ok.mp startIs
    obtain ⟨name, rfl⟩ := text_of_lookUp found
    exact ⟨name, story, rfl, found, rfl⟩
  · rintro ⟨name, story, rfl, found, rfl⟩
    exact bind_eq_ok.mpr ⟨story.start, bind_eq_ok.mpr ⟨story, found, rfl⟩, rfl⟩

theorem node?_of_mem (linked : library.Linked) {id name : String}
    (listed : (id, story) ∈ library.stories) (inside : name ∈ story.nodes.names) :
    ∃ node, library.source.node? name = some node ∧ story.nodes.get? name = some node ∧
      node.id = name := by
  have closed := linked.closed _ listed
  obtain ⟨entry, member, rfl⟩ := List.mem_map.mp inside
  exact ⟨entry.2, Assoc.get?_of_mem linked.distinct (List.mem_flatMap.mpr ⟨_, listed, member⟩),
    Assoc.get?_of_mem closed.distinct member, closed.named entry member⟩

theorem id_of_node? (linked : library.Linked) {name : String} {node : StoryNode}
    (found : library.source.node? name = some node) : node.id = name := by
  obtain ⟨entry, member, named, rfl⟩ : ∃ entry ∈ library.nodes, (entry.1 == name) = true ∧
      entry.2 = node := Assoc.mem_of_get? found
  obtain ⟨story, listed, inside⟩ := List.mem_flatMap.mp member
  rw [← beq_iff_eq.mp named]
  exact (linked.closed story listed).named entry inside

end Library
end Gamebook
