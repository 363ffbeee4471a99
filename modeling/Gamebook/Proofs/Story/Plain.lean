import Gamebook.Proofs.State.Storable
import Gamebook.Proofs.Story.Loading

/-!
A library that was loaded from a plain document has plain ids, texts and effects.
-/
namespace Gamebook

structure EffectDef.Plain (effect : EffectDef) : Prop where
  target : Text.IsName effect.target
  value : effect.value.isPlain = true
  metadata : (Value.object effect.metadata).isPlain = true

structure StoryChoice.Plain (choice : StoryChoice) : Prop where
  text : Text.isPlain choice.text = true
  target : Text.IsName choice.target
  effects : ∀ effect ∈ choice.effects, effect.Plain

structure Story.Plain (story : Story) : Prop where
  id : Text.isPlain story.id = true
  start : Text.IsName story.start
  choices : ∀ entry ∈ story.nodes, ∀ choice ∈ entry.2.choices, choice.Plain

def Library.Plain (library : Library) : Prop := ∀ entry ∈ library.stories, entry.2.Plain

namespace Value

theorem isPlain_get? {fields : Table Value} (plain : (object fields).isPlain = true) {name : String}
    {entry : Value} (found : fields.get? name = some entry) : entry.isPlain = true := by
  obtain ⟨field, member, _, rfl⟩ : ∃ field ∈ fields, (field.1 == name) = true ∧ field.2 = entry :=
    Assoc.mem_of_get? found
  rw [isPlain, Bool.and_eq_true, fieldsPlain_eq_all, List.all_eq_true] at plain
  have each := plain.1 field member
  rw [Bool.and_eq_true] at each
  exact each.2

theorem isPlain_field {fields : Table Value} (plain : (object fields).isPlain = true) (name : String) :
    (field fields name).isPlain = true := by
  unfold field
  cases found : Assoc.get? fields name with
  | none => rfl
  | some entry => exact isPlain_get? plain found

theorem isPlain_items {items : List Value} (plain : (list items).isPlain = true) :
    ∀ item ∈ items, item.isPlain = true := by
  rw [isPlain, allPlain_eq_all, List.all_eq_true] at plain
  exact plain

end Value

namespace Story.Document
variable {place : String} {value : Value}

theorem object_eq_ok {fields : Table Value} (ok : object place value = .ok fields) :
    value = .object fields := by
  unfold object at ok
  split at ok
  · cases ok
    rfl
  · cases ok

theorem filledText_eq_ok {content : String} (ok : filledText place value = .ok content) :
    value = .text content ∧ content ≠ "" := by
  unfold filledText at ok
  split at ok
  · split at ok
    · cases ok
    · rename_i filled
      cases ok
      exact ⟨rfl, filled⟩
  · cases ok

theorem filledText_name {content : String} (plain : value.isPlain = true)
    (ok : filledText place value = .ok content) : Text.IsName content := by
  obtain ⟨rfl, filled⟩ := filledText_eq_ok ok
  exact ⟨filled, plain⟩

theorem optionalObject_plain {fields : Table Value} (plain : value.isPlain = true)
    (ok : optionalObject place value = .ok fields) : (Value.object fields).isPlain = true := by
  unfold optionalObject at ok
  split at ok
  · cases ok
    rfl
  · cases ok
    exact plain
  · cases ok

theorem optionalList_plain {items : List (Value × String)} (plain : value.isPlain = true)
    (ok : optionalList place value = .ok items) : ∀ item ∈ items, item.1.isPlain = true := by
  unfold optionalList at ok
  split at ok
  · cases ok
    nofun
  · rename_i list
    cases ok
    intro item member
    obtain ⟨⟨entry, index⟩, inside, rfl⟩ := List.mem_map.mp member
    exact Value.isPlain_items plain entry (List.fst_mem_of_mem_zipIdx inside)
  · cases ok

theorem isPlain_either {fields : Table Value} (plain : (Value.object fields).isPlain = true)
    (first second : String) : (either fields first second).isPlain = true := by
  unfold either
  cases found : Assoc.get? fields first with
  | none => exact Value.isPlain_field plain second
  | some entry => exact Value.isPlain_get? plain found

theorem readEffect_plain {effect : EffectDef} (plain : value.isPlain = true)
    (ok : readEffect place value = .ok effect) : effect.Plain := by
  obtain ⟨fields, given, rest⟩ := bind_eq_ok.mp ok
  obtain rfl := object_eq_ok given
  obtain ⟨metadata, extra, rest⟩ := bind_eq_ok.mp rest
  obtain ⟨type, _, rest⟩ := bind_eq_ok.mp rest
  obtain ⟨target, targeted, rest⟩ := bind_eq_ok.mp rest
  obtain ⟨operation, _, rest⟩ := bind_eq_ok.mp rest
  obtain rfl := pure_eq_ok.mp rest
  exact ⟨filledText_name (Value.isPlain_field plain _) targeted, Value.isPlain_field plain _,
    optionalObject_plain (Value.isPlain_field plain _) extra⟩

theorem readEffects_plain {effects : List EffectDef} (plain : value.isPlain = true)
    (ok : readEffects place value = .ok effects) : ∀ effect ∈ effects, effect.Plain := by
  obtain ⟨items, listed, rest⟩ := bind_eq_ok.mp ok
  intro effect member
  obtain ⟨item, inside, read⟩ := mapM_source rest member
  exact readEffect_plain (optionalList_plain plain listed item inside) read

theorem readChoice_plain {nodeId : String} {index : Nat} {choice : StoryChoice}
    (plain : value.isPlain = true) (ok : readChoice nodeId place index value = .ok choice) :
    choice.Plain := by
  obtain ⟨fields, given, rest⟩ := bind_eq_ok.mp ok
  obtain rfl := object_eq_ok given
  obtain ⟨id, _, rest⟩ := bind_eq_ok.mp rest
  obtain ⟨metadata, _, rest⟩ := bind_eq_ok.mp rest
  obtain ⟨text, worded, rest⟩ := bind_eq_ok.mp rest
  obtain ⟨target, targeted, rest⟩ := bind_eq_ok.mp rest
  obtain ⟨conditions, _, rest⟩ := bind_eq_ok.mp rest
  obtain ⟨effects, effected, rest⟩ := bind_eq_ok.mp rest
  obtain ⟨rolls, _, rest⟩ := bind_eq_ok.mp rest
  obtain rfl := pure_eq_ok.mp rest
  exact ⟨(filledText_name (Value.isPlain_field plain _) worded).plain,
    filledText_name (isPlain_either plain _ _) targeted,
    readEffects_plain (Value.isPlain_field plain _) effected⟩

theorem readChoices_plain {nodeId : String} {choices : List StoryChoice} (plain : value.isPlain = true)
    (ok : readChoices nodeId place value = .ok choices) : ∀ choice ∈ choices, choice.Plain := by
  obtain ⟨items, listed, rest⟩ := bind_eq_ok.mp ok
  intro choice member
  obtain ⟨⟨item, index⟩, inside, read⟩ := mapM_source rest member
  exact readChoice_plain (optionalList_plain plain listed item (List.fst_mem_of_mem_zipIdx inside)) read

theorem readNode_plain {id : String} {node : StoryNode} (plain : value.isPlain = true)
    (ok : readNode id value = .ok node) : ∀ choice ∈ node.choices, choice.Plain := by
  obtain ⟨fields, given, rest⟩ := bind_eq_ok.mp ok
  obtain rfl := object_eq_ok given
  obtain ⟨_, _, rest⟩ := bind_eq_ok.mp rest
  obtain ⟨_, _, rest⟩ := bind_eq_ok.mp rest
  obtain ⟨_, _, rest⟩ := bind_eq_ok.mp rest
  obtain ⟨_, _, rest⟩ := bind_eq_ok.mp rest
  obtain ⟨choices, offered, rest⟩ := bind_eq_ok.mp rest
  obtain ⟨_, _, rest⟩ := bind_eq_ok.mp rest
  obtain rfl := pure_eq_ok.mp rest
  exact readChoices_plain (Value.isPlain_field plain _) offered

theorem readNodes_plain {taken : List String} {documents : Table Value} {nodes : Table StoryNode}
    (plain : Value.fieldsPlain documents = true) (ok : readNodes place taken documents = .ok nodes) :
    ∀ entry ∈ nodes, ∀ choice ∈ entry.2.choices, choice.Plain := by
  induction documents generalizing taken nodes with
  | nil =>
    cases ok
    nofun
  | cons first documents ih =>
    rw [Value.fieldsPlain, Bool.and_eq_true, Bool.and_eq_true] at plain
    obtain ⟨_, node, others, read, later, rfl⟩ := readNodes_cons ok
    exact List.forall_mem_cons.mpr ⟨readNode_plain plain.1.2 read, ih plain.2 later⟩

theorem readStory_plain {taken : List String} {id : String} {story : Story}
    (named : Text.isPlain id = true) (plain : value.isPlain = true)
    (ok : readStory taken id value = .ok story) : story.Plain := by
  obtain ⟨fields, given, rest⟩ := bind_eq_ok.mp ok
  obtain rfl := object_eq_ok given
  obtain ⟨_, _, rest⟩ := bind_eq_ok.mp rest
  obtain ⟨start, starts, rest⟩ := bind_eq_ok.mp rest
  obtain ⟨documents, listed, rest⟩ := bind_eq_ok.mp rest
  obtain ⟨nodes, read, rest⟩ := bind_eq_ok.mp rest
  have objects := Value.isPlain_field plain "nodes"
  rw [object_eq_ok listed, Value.isPlain, Bool.and_eq_true] at objects
  split at rest
  · cases rest
  · obtain ⟨_, _, rest⟩ := bind_eq_ok.mp rest
    obtain rfl := pure_eq_ok.mp rest
    exact ⟨named, filledText_name (Value.isPlain_field plain _) starts, readNodes_plain objects.1 read⟩

theorem readStories_plain {taken : List String} {documents : Dict} {stories : Table Story}
    (plain : documents.Plain) (ok : readStories taken documents = .ok stories) :
    (Library.mk stories).Plain := by
  induction documents generalizing taken stories with
  | nil =>
    cases ok
    nofun
  | cons first documents ih =>
    obtain ⟨id, story, others, name, read, later, rfl⟩ := readStories_cons ok
    obtain ⟨named, keys⟩ := List.forall_mem_cons.mp plain.keys
    obtain ⟨given, entries⟩ := List.forall_mem_cons.mp plain.entries
    have distinct := (List.nodup_cons.mp plain.distinct).2
    rw [name] at named
    exact List.forall_mem_cons.mpr ⟨readStory_plain named given read, ih ⟨distinct, keys, entries⟩ later⟩

theorem readStories_keys {taken : List String} {documents : Dict} {stories : Table Story}
    (ok : readStories taken documents = .ok stories) :
    stories.keys.map .text = documents.map (·.1) := by
  induction documents generalizing taken stories with
  | nil =>
    cases ok
    rfl
  | cons first documents ih =>
    obtain ⟨id, story, others, name, _, later, rfl⟩ := readStories_cons ok
    exact List.cons_eq_cons.mpr ⟨name.symm, ih later⟩

end Story.Document

theorem Library.story_of_all {document : Dict} {library : Library} {story : Story}
    (plain : document.Plain) (ok : ofDocument document = .ok library) (member : story ∈ library.all) :
    library.story (.text story.id) = .ok story := by
  obtain ⟨entry, sorted, rfl⟩ := List.mem_map.mp member
  have listed : entry ∈ library.stories := List.mem_mergeSort.mp sorted
  have distinct : library.stories.keys.Nodup := by
    obtain ⟨stories, read, rest⟩ := bind_eq_ok.mp ok
    obtain rfl := pure_eq_ok.mp rest
    have distinct := Story.Document.readStories_keys read ▸ plain.distinct
    exact (List.pairwise_map.mp distinct).imp fun differs same => differs (congrArg Value.text same)
  rw [(ofDocument_linked ok).2 entry listed]
  exact lookUp_text_eq_ok.mpr (Assoc.get?_of_mem distinct listed)

theorem Library.ofDocument_plain {document : Dict} {library : Library} (plain : document.Plain)
    (ok : ofDocument document = .ok library) : library.Plain := by
  obtain ⟨stories, read, rest⟩ := bind_eq_ok.mp ok
  obtain rfl := pure_eq_ok.mp rest
  exact Story.Document.readStories_plain plain read

end Gamebook
