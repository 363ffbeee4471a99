import Gamebook.Proofs.Dice.Reading
import Gamebook.Proofs.Story.Reporting
import Gamebook.Story.Document
import Gamebook.Story.Lighthouse

/-!
When the mistakes of a story can be told at all. Formulas that are none are mistakes like any other,
but a formula with a number that is too long to be read ends the whole check.
-/
namespace Gamebook

/-- Gives a result, or fails for a number that cannot be read if there is one that is bad. -/
structure StopsIf {α : Type} (bad : Prop) (outcome : Outcome α) : Prop where
  stops : bad → outcome = .error (.fault .badValue)
  gives : ¬bad → ∃ result, outcome = .ok result

section
variable {α β : Type} {bad worse : Prop}

theorem stopsIf_ok (value : α) : StopsIf False (.ok value) := ⟨nofun, fun _ => ⟨value, rfl⟩⟩

theorem StopsIf.congr {outcome : Outcome α} (stops : StopsIf bad outcome) (same : worse ↔ bad) :
    StopsIf worse outcome :=
  ⟨fun first => stops.stops (same.mp first), fun fine => stops.gives fun first => fine (same.mpr first)⟩

theorem stopsIf_bind {first : Outcome α} {next : α → Outcome β} (head : StopsIf bad first)
    (rest : ∀ value, StopsIf worse (next value)) : StopsIf (bad ∨ worse) (first >>= next) := by
  by_cases here : bad
  · exact ⟨fun _ => bind_eq_error.mpr (.inl (head.stops here)), fun fine => absurd (.inl here) fine⟩
  obtain ⟨value, given⟩ := head.gives here
  constructor
  · intro later
    exact bind_eq_error.mpr (.inr ⟨value, given, (rest value).stops (later.resolve_left here)⟩)
  · intro fine
    obtain ⟨result, done⟩ := (rest value).gives fun there => fine (.inr there)
    exact ⟨result, bind_eq_ok.mpr ⟨value, given, done⟩⟩

theorem StopsIf.map {first : Outcome α} (head : StopsIf bad first) (change : α → β) :
    StopsIf bad (first >>= fun value => pure (change value)) :=
  (stopsIf_bind head fun value => stopsIf_ok (change value)).congr (or_iff_left id).symm

theorem stopsIf_mapM {read : α → Outcome β} {items : List α} {spoilt : α → Prop}
    (each : ∀ item ∈ items, StopsIf (spoilt item) (read item)) :
    StopsIf (∃ item ∈ items, spoilt item) (items.mapM read) := by
  induction items with
  | nil => exact (stopsIf_ok []).congr (by simp)
  | cons item items ih =>
    rw [List.mapM_cons]
    have others := ih fun other member => each other (.tail _ member)
    have rest (first : β) := others.map (first :: ·)
    exact (stopsIf_bind (each item (.head _)) rest).congr (by simp)

end

/-- The formulas that the rolls of a node name. -/
def StoryNode.formulas (node : StoryNode) : List String :=
  (node.diceChecks ++ node.choices.flatMap (·.rollRequirements)).filterMap (·.formula)

def Story.formulas (story : Story) : List String := story.nodes.flatMap (·.2.formulas)

namespace Graph
variable {nodes : Table StoryNode} {id path : String} {node : StoryNode}

theorem formulaIssues_stops (id path : String) (requirement : RollRequirement) :
    StopsIf (∃ formula, requirement.formula = some formula ∧ DiceFormula.Overlong formula)
      (formulaIssues id path requirement) := by
  unfold formulaIssues
  cases requirement.formula with
  | none => exact (stopsIf_ok []).congr (by simp)
  | some formula =>
    dsimp only
    rcases DiceFormula.ofText_cases formula with ⟨long, refused⟩ | ⟨short, read⟩
    · rw [refused]
      exact ⟨fun _ => rfl, fun fine => absurd ⟨formula, rfl, long⟩ fine⟩
    · have none : (∃ other, some formula = some other ∧ DiceFormula.Overlong other) ↔ False := by
        simpa using short
      rcases read with ⟨parsed, read⟩ | refused | refused
      · rw [read]
        exact (stopsIf_ok _).congr none
      · rw [refused]
        exact (stopsIf_ok _).congr none
      · rw [refused]
        exact (stopsIf_ok _).congr none

theorem requirementIssues_stops (id path : String) (requirements : List RollRequirement) :
    StopsIf (∃ formula ∈ requirements.filterMap (·.formula), DiceFormula.Overlong formula)
      (requirementIssues id path requirements) := by
  have each := stopsIf_mapM fun (item : RollRequirement × Nat) (_ : item ∈ requirements.zipIdx) =>
    formulaIssues_stops id s!"{path}[{item.2}]" item.1
  refine (each.map List.flatten).congr ?_
  simp only [List.mem_filterMap, Prod.exists, List.mem_zipIdx_iff_getElem?]
  constructor
  · rintro ⟨formula, ⟨requirement, member, given⟩, long⟩
    obtain ⟨index, there⟩ := List.mem_iff_getElem?.mp member
    exact ⟨requirement, index, there, formula, given, long⟩
  · rintro ⟨requirement, index, there, formula, given, long⟩
    exact ⟨formula, ⟨requirement, List.mem_of_getElem? there, given⟩, long⟩

theorem choiceIssues_stops (id : String) (index : Nat) (choice : StoryChoice) :
    StopsIf (∃ formula ∈ choice.rollRequirements.filterMap (·.formula), DiceFormula.Overlong formula)
      (choiceIssues id index choice) :=
  (requirementIssues_stops id _ choice.rollRequirements).map _

theorem nodeIssues_stops (nodes : Table StoryNode) (id : String) (node : StoryNode) :
    StopsIf (∃ formula ∈ node.formulas, DiceFormula.Overlong formula) (nodeIssues nodes id node) := by
  have each := stopsIf_mapM fun (item : StoryChoice × Nat) (_ : item ∈ node.choices.zipIdx) =>
    choiceIssues_stops id item.2 item.1
  have rest (checks : List Issue) := each.map fun choices =>
    referenceIssues nodes id node ++ checks ++ choices.flatten
  refine (stopsIf_bind (requirementIssues_stops id "dice_checks" node.diceChecks) rest).congr ?_
  simp only [StoryNode.formulas, List.filterMap_append, List.mem_append, or_and_right, exists_or]
  refine or_congr_right ?_
  simp only [List.mem_filterMap, List.mem_flatMap, Prod.exists, List.mem_zipIdx_iff_getElem?]
  constructor
  · rintro ⟨formula, ⟨requirement, ⟨choice, offered, required⟩, given⟩, long⟩
    obtain ⟨place, there⟩ := List.mem_iff_getElem?.mp offered
    exact ⟨choice, place, there, formula, ⟨requirement, required, given⟩, long⟩
  · rintro ⟨choice, place, there, formula, ⟨requirement, required, given⟩, long⟩
    exact ⟨formula, ⟨requirement, ⟨choice, List.mem_of_getElem? there, required⟩, given⟩, long⟩

end Graph

namespace Story

theorem issues_stops (story : Story) :
    StopsIf (∃ formula ∈ story.formulas, DiceFormula.Overlong formula) story.issues := by
  obtain ⟨starts, started⟩ : ∃ starts,
      Graph.startIssues (.text story.id) (.text story.start) story.nodes = .ok starts := by
    unfold Graph.startIssues
    cases (Value.text story.start).text?.any story.nodes.contains with
    | true => exact ⟨_, rfl⟩
    | false => exact ⟨_, rfl⟩
  have each := stopsIf_mapM fun (entry : String × StoryNode) (_ : entry ∈ story.nodes) =>
    Graph.nodeIssues_stops story.nodes entry.1 entry.2
  have all := each.map fun lists =>
    starts ++ lists.flatten ++ (Graph.unreachable story.nodes (.text story.start)).map .unreachable
  unfold Story.issues Graph.issues
  rw [started]
  refine all.congr ?_
  simp only [formulas, List.mem_flatMap]
  constructor
  · rintro ⟨formula, ⟨entry, member, inside⟩, long⟩
    exact ⟨entry, member, formula, inside, long⟩
  · rintro ⟨entry, member, formula, inside, long⟩
    exact ⟨formula, ⟨entry, member, inside⟩, long⟩

/-- The mistakes of a story can be told if no formula in it is overlong, and nothing else is in the
way. An overlong formula is the one kind of text that is neither read nor refused as a formula. -/
theorem issues_returns (story : Story) :
    ((∃ found, story.issues = .ok found) ↔
      ∀ formula ∈ story.formulas, ¬DiceFormula.Overlong formula) ∧
    (∀ failure, story.issues = .error failure → failure = .fault .badValue) ∧
    ∀ text, (DiceFormula.Overlong text ↔ DiceFormula.ofText text = .error (.fault .badValue)) ∧
      (¬DiceFormula.Overlong text → (∃ formula, DiceFormula.ofText text = .ok formula) ∨
        DiceFormula.ofText text = .error (.diceFormula (.text text)) ∨
        DiceFormula.ofText text = .error (.diceCount text)) := by
  have checks := issues_stops story
  refine ⟨⟨?_, fun short => checks.gives ?_⟩, fun failure failed => ?_, fun text => ?_⟩
  · rintro ⟨found, told⟩ formula member long
    rw [checks.stops ⟨formula, member, long⟩] at told
    cases told
  · rintro ⟨formula, member, long⟩
    exact short formula member long
  · by_cases long : ∃ formula ∈ story.formulas, DiceFormula.Overlong formula
    · rw [checks.stops long] at failed
      exact (Except.error.inj failed).symm
    · obtain ⟨found, told⟩ := checks.gives long
      rw [told] at failed
      cases failed
  · rcases DiceFormula.ofText_cases text with ⟨long, refused⟩ | ⟨short, read⟩
    · exact ⟨⟨fun _ => refused, fun _ => long⟩, fun short => absurd long short⟩
    · refine ⟨⟨fun long => absurd long short, fun refused => ?_⟩, fun _ => read⟩
      rw [refused] at read
      obtain ⟨_, ⟨⟩⟩ | ⟨⟨⟩⟩ | ⟨⟨⟩⟩ := read

/-- A story with a roll for which its author gave a formula. -/
def gale (formula : String) : Dict :=
  [(.text "harbour", .object [("start", .text "pier"), ("nodes", .object [
    ("pier", .object [("choices", .list [
      .object [("text", .text "Set sail"), ("target", .text "sea"), ("roll_requirements", .list [
        .object [("stat", .text "luck"), ("difficulty", .int 10), ("formula", .text formula)]])]])]),
    ("sea", .object [("is_terminal", .bool true)])])])]

def galeChoice (formula : String) : StoryChoice :=
  { Lighthouse.choice "pier:0" "Set sail" "sea" with
    rollRequirements := [⟨"luck", 10, some formula⟩] }

def galeStory (formula : String) : Story where
  id := "harbour"
  title := "harbour"
  start := "pier"
  nodes :=
    [("pier", ⟨"pier", "", none, none, [galeChoice formula], [], false⟩),
      ("sea", ⟨"sea", "", none, none, [], [], true⟩)]

theorem gale_loaded (formula : String) :
    Library.ofDocument (gale formula) = .ok ⟨[("harbour", galeStory formula)]⟩ := rfl

/-- More dice than can be counted. -/
def countless : String := String.ofList (List.replicate (Text.maxDigits + 1) '1' ++ ['d', '6'])

theorem overlong_countless : DiceFormula.Overlong countless := by
  have counted : Text.IsNumeral (List.replicate (Text.maxDigits + 1) '1') := by
    refine ⟨List.cons_ne_nil _ _, fun c member => ?_⟩
    rw [List.eq_of_mem_replicate member]
    decide
  have sided : Text.IsNumeral ['6'] :=
    ⟨List.cons_ne_nil _ _, List.forall_mem_singleton.mpr (by decide)⟩
  have bare : DiceFormula.unblanked countless =
      List.replicate (Text.maxDigits + 1) '1' ++ 'd' :: (['6'] ++ []) := by
    have digit : Text.isBlank '1' = false := by decide
    have rest : ['d', '6'].filter (fun c => !Text.isBlank c) = ['d', '6'] := by decide
    rw [DiceFormula.unblanked, countless, String.toList_ofList, List.filter_append,
      List.filter_replicate, digit, rest]
    rfl
  have spells : DiceFormula.Spells (DiceFormula.unblanked countless)
      (List.replicate (Text.maxDigits + 1) '1') ['6'] [] := by
    rw [bare]
    exact .intro counted (.inl rfl) sided .nothing
  refine ⟨_, _, _, spells, .inl ?_⟩
  rw [List.length_replicate]
  exact Nat.lt_succ_self _

/-- A story that is loaded can have such a formula. -/
theorem issues_gale : ∃ library, Library.ofDocument (gale countless) = .ok library ∧
    library.story (.text "harbour") = .ok (galeStory countless) ∧
    (galeStory countless).issues = .error (.fault .badValue) := by
  refine ⟨_, gale_loaded countless, rfl, (issues_stops _).stops ⟨countless, ?_, overlong_countless⟩⟩
  exact .head _

end Story
end Gamebook
