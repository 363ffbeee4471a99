import Gamebook.Condition.Evaluate
import Gamebook.Proofs.Outcome
import Gamebook.Proofs.Table
import Gamebook.Proofs.Value.Equality

/-!
What conditions see of a state. Every part of a context is made of one part of the state, and paths
lead to these parts by their names and to the entries of tables by a point and a key.
-/
namespace Gamebook

namespace Text
variable {separator : Char} {text : List Char}

theorem splitAt_none (absent : separator ∉ text) : splitAt separator text = [text] := by
  induction text with
  | nil => rfl
  | cons c text ih =>
    have other : c ≠ separator := fun same => absent (same ▸ .head _)
    rw [splitAt, ih fun inside => absent (.tail _ inside)]
    exact if_neg other

theorem splitAt_first (absent : separator ∉ text) (rest : List Char) :
    splitAt separator (text ++ separator :: rest) = text :: splitAt separator rest := by
  induction text with
  | nil =>
    rw [List.nil_append, splitAt]
    cases pieces : splitAt separator rest with
    | nil =>
      cases rest with
      | nil => cases pieces
      | cons c rest =>
        rw [splitAt] at pieces
        split at pieces
        · cases pieces
        · split at pieces <;> cases pieces
    | cons piece pieces => exact if_pos rfl
  | cons c text ih =>
    have other : c ≠ separator := fun same => absent (same ▸ .head _)
    rw [List.cons_append, splitAt, ih fun inside => absent (.tail _ inside)]
    exact if_neg other

end Text

namespace Dict

theorem contains_text_iff {dict : Dict} {name : String} :
    Assoc.contains dict (.text name) = true ↔ .text name ∈ dict.map (·.1) := by
  simp [Assoc.contains]

theorem contains_insert {dict : Dict} {key value : Value} {name : String} :
    Assoc.contains (Assoc.insert dict key value) (.text name) = true ↔
      Assoc.contains dict (.text name) = true ∨ key = .text name := by
  rw [contains_text_iff, contains_text_iff, Assoc.keys_insert]
  split
  · rename_i present
    refine (or_iff_left_of_imp ?_).symm
    rintro rfl
    exact contains_text_iff.mp present
  · rw [List.mem_append, List.mem_singleton, eq_comm]

theorem contains_update {dict other : Dict} {name : String} :
    Assoc.contains (Assoc.update dict other) (.text name) = true ↔
      Assoc.contains dict (.text name) = true ∨ .text name ∈ other.map (·.1) := by
  induction other generalizing dict with
  | nil => simp [Assoc.update]
  | cons entry other ih =>
    rw [Assoc.update, List.foldl_cons, ← Assoc.update, ih, contains_insert, List.map_cons,
      List.mem_cons, or_assoc, eq_comm (a := entry.1)]

end Dict

namespace Condition
namespace Context
variable {state : GameState} {context : Context} {dict : Dict} {name key : String}

/-- Where each part of a context comes from. -/
structure Views (state : GameState) (context : Context) : Prop where
  stats : state.stats.dict = .ok context.stats
  wallets : state.wallets.dict = .ok context.wallets
  inventory : state.inventory.dict = .ok context.inventory
  flags : state.flags.dict = .ok context.flags
  effects : state.statusEffects.entries = .ok context.statusEffects
  types : presence (context.statusEffects.map (·.type)) = .ok context.hasStatusEffect
  visits : state.visitedNodes.items id = .ok context.visitedNodes
  visited : presence context.visitedNodes = .ok context.hasVisited
  node : context.currentNodeId = state.currentNodeId
  choices : state.choiceCount = .ok context.choiceCount

theorem ofState_eq_ok_iff : ofState state = .ok context ↔ Views state context := by
  constructor
  · intro seen
    obtain ⟨effects, effectsIs, seen⟩ := bind_eq_ok.mp seen
    obtain ⟨stats, statsIs, seen⟩ := bind_eq_ok.mp seen
    obtain ⟨wallets, walletsIs, seen⟩ := bind_eq_ok.mp seen
    obtain ⟨inventory, inventoryIs, seen⟩ := bind_eq_ok.mp seen
    obtain ⟨flags, flagsIs, seen⟩ := bind_eq_ok.mp seen
    obtain ⟨types, typesIs, seen⟩ := bind_eq_ok.mp seen
    obtain ⟨visits, visitsIs, seen⟩ := bind_eq_ok.mp seen
    obtain ⟨visited, visitedIs, seen⟩ := bind_eq_ok.mp seen
    obtain ⟨count, countIs, seen⟩ := bind_eq_ok.mp seen
    obtain rfl := pure_eq_ok.mp seen
    exact ⟨statsIs, walletsIs, inventoryIs, flagsIs, effectsIs, typesIs, visitsIs, visitedIs, rfl,
      countIs⟩
  · intro views
    obtain ⟨stats, wallets, inventory, flags, effects, types, visits, visited, node, choices⟩ := context
    obtain rfl := views.node
    refine bind_eq_ok.mpr ⟨_, views.effects, bind_eq_ok.mpr ⟨_, views.stats, ?_⟩⟩
    refine bind_eq_ok.mpr ⟨_, views.wallets, bind_eq_ok.mpr ⟨_, views.inventory, ?_⟩⟩
    refine bind_eq_ok.mpr ⟨_, views.flags, bind_eq_ok.mpr ⟨_, views.types, ?_⟩⟩
    refine bind_eq_ok.mpr ⟨_, views.visits, bind_eq_ok.mpr ⟨_, views.visited, ?_⟩⟩
    exact bind_eq_ok.mpr ⟨_, views.choices, rfl⟩

theorem presence_contains {values : List Value} (made : presence values = .ok dict) :
    Assoc.contains dict (.text name) = true ↔ .text name ∈ values := by
  unfold presence at made
  split at made
  · cases made
    rw [Assoc.ofPairs, Dict.contains_update]
    simp [Assoc.contains]
  · cases made

end Context

section
variable {context : Context} {dict : Dict} {name key : String}

theorem lookup_name (filled : name ≠ "") (undotted : '.' ∉ name.toList) :
    lookup context (.text name) = Fault.lift (stepInto context.root name.toList) := by
  have parts : pathParts (.text name) = .ok (some [name.toList]) := by
    rw [pathParts, if_neg filled, Text.splitAt_none undotted]
  unfold lookup
  rw [parts]
  change Fault.lift (follow context.root [name.toList]) = _
  unfold follow
  rcases stepInto context.root name.toList with _ | _ | _ <;> rfl

/-- A name and a key with a point between them lead to the entry of the table under that name. -/
theorem lookup_entry (undotted : '.' ∉ name.toList)
    (leads : stepInto context.root name.toList = .ok (some (.view dict)))
    (plain : '.' ∉ key.toList) :
    lookup context (.text (name ++ "." ++ key)) = .ok (dict.get? (.text key)) := by
  have chars : (name ++ "." ++ key).toList = name.toList ++ '.' :: key.toList := by simp
  have filled : name ++ "." ++ key ≠ "" := by
    intro none
    rw [none] at chars
    simp at chars
  have parts : pathParts (.text (name ++ "." ++ key)) = .ok (some [name.toList, key.toList]) := by
    rw [pathParts, if_neg filled, chars, Text.splitAt_first undotted, Text.splitAt_none plain]
  have last : follow (.view dict) [key.toList] = .ok (dict.get? (.text key)) := by
    have step : stepInto (.view dict) key.toList = .ok (dict.get? (.text key)) := by
      rw [stepInto, String.ofList_toList]
    unfold follow
    rw [step]
    cases dict.get? (.text key) <;> rfl
  unfold lookup
  rw [parts]
  change Fault.lift (follow context.root [name.toList, key.toList]) = _
  unfold follow
  rw [leads]
  change Fault.lift (follow (.view dict) [key.toList]) = _
  rw [last]
  rfl

end

theorem stepInto_record (fields : Table Value) (name : String) :
    stepInto (Context.record fields) name.toList = .ok (fields.get? name) := by
  have found : Assoc.get? (Dict.ofTable fields) (.text name) = Assoc.get? fields name := by
    have under (field : String × Value) : (Value.text field.1 == .text name) = (field.1 == name) := by
      rw [Bool.eq_iff_iff, Value.beq_text_iff, Value.text.injEq, beq_iff_eq]
    rw [Assoc.get?, Assoc.get?, Dict.ofTable, List.find?_map, Option.map_map]
    simp only [Function.comp_def, under]
  rw [Context.record, stepInto, String.ofList_toList, found]

theorem lookup_visitedNodes (context : Context) :
    lookup context (.text "visitedNodes") = .ok (some (.tuple context.visitedNodes)) := by
  rw [lookup_name (by decide) (by decide), Context.root, stepInto_record]
  rfl

/-- The visited nodes are lent as a fixed list. -/
theorem evaluate_visitedNodes (context : Context) (predicates : Predicates) :
    evaluate context predicates (.lookup (.const (.text "visitedNodes")) none) =
      .ok (.tuple context.visitedNodes) := by
  change (lookup context (.text "visitedNodes") >>= _) = _
  rw [lookup_visitedNodes]
  rfl

end Condition
end Gamebook
