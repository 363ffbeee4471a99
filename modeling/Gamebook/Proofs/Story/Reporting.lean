import Gamebook.Proofs.Json.Numerals
import Gamebook.Proofs.Table
import Gamebook.Story.Graph

/-!
Exactly which mistakes are reported of a node, and that the path of a report tells to which part of
the node it belongs.
-/
namespace Gamebook

namespace Graph

def choicePath (place : Nat) : String := s!"choices[{place}]"

def targetPath (place : Nat) : String := s!"choices[{place}].target"

def conditionPath (place index : Nat) : String := s!"{choicePath place}.conditions[{index}]"

def effectPath (place index : Nat) : String := s!"{choicePath place}.effects[{index}]"

def operationPath (place index : Nat) : String := s!"{effectPath place index}.operation"

def itemPath (path : String) (index : Nat) : String := s!"{path}[{index}]"

/-- The formula of one in a list of rolls. -/
def formulaPath (path : String) (index : Nat) : String := s!"{itemPath path index}.formula"

def checkPath (index : Nat) : String := formulaPath "dice_checks" index

def rollPath (place index : Nat) : String :=
  formulaPath s!"{choicePath place}.roll_requirements" index

/-- The mistakes of one node and where they are. -/
inductive Reports (nodes : Table StoryNode) (id : String) (node : StoryNode) : Issue → Prop
  | target {place : Nat} {choice : StoryChoice} (there : node.choices[place]? = some choice)
      (dangling : nodes.contains choice.target = false) :
      Reports nodes id node (.missingTarget id (targetPath place) choice.target)
  | stuck (closed : node.choices = []) (goesOn : node.isTerminal = false) :
      Reports nodes id node (.deadEnd id)
  | check {index : Nat} {requirement : RollRequirement} {formula : String} {reason : Failure}
      (inside : node.diceChecks[index]? = some requirement)
      (given : requirement.formula = some formula)
      (unread : DiceFormula.ofText formula = .error reason) :
      Reports nodes id node (.badFormula id (checkPath index) reason)
  | condition {place index : Nat} {choice : StoryChoice} {condition : ConditionDef}
      {reason : MalformedCondition} (there : node.choices[place]? = some choice)
      (inside : choice.conditions[index]? = some condition)
      (unread : condition.expression = .invalid reason) :
      Reports nodes id node (.unreadableCondition id (conditionPath place index) reason)
  | type {place index : Nat} {choice : StoryChoice} {effect : EffectDef}
      (there : node.choices[place]? = some choice) (inside : choice.effects[index]? = some effect)
      (unknown : Effect.Target.ofName? effect.type = none) :
      Reports nodes id node (.unknownEffectType id (effectPath place index))
  | operation {place index : Nat} {choice : StoryChoice} {effect : EffectDef}
      (there : node.choices[place]? = some choice) (inside : choice.effects[index]? = some effect)
      (known : (Effect.Target.ofName? effect.type).isSome)
      (unknown : Effect.Operation.ofName? effect.operation = none) :
      Reports nodes id node (.unknownOperation id (operationPath place index))
  | roll {place index : Nat} {choice : StoryChoice} {requirement : RollRequirement}
      {formula : String} {reason : Failure} (there : node.choices[place]? = some choice)
      (inside : choice.rollRequirements[index]? = some requirement)
      (given : requirement.formula = some formula)
      (unread : DiceFormula.ofText formula = .error reason) :
      Reports nodes id node (.badFormula id (rollPath place index) reason)

variable {nodes : Table StoryNode} {id path : String} {node : StoryNode} {found : List Issue}
  {issue : Issue}

theorem mem_referenceIssues : issue ∈ referenceIssues nodes id node ↔
    (∃ (place : Nat) (choice : StoryChoice), node.choices[place]? = some choice ∧
      nodes.contains choice.target = false ∧
      issue = .missingTarget id (targetPath place) choice.target) ∨
    node.choices = [] ∧ node.isTerminal = false ∧ issue = .deadEnd id := by
  simp only [referenceIssues, List.mem_append, List.mem_filterMap, Prod.exists,
    List.mem_zipIdx_iff_getElem?]
  apply or_congr
  · constructor
    · rintro ⟨choice, place, there, made⟩
      split at made
      · cases made
      · rename_i dangling
        cases made
        exact ⟨place, choice, there, by simpa using dangling, rfl⟩
    · rintro ⟨place, choice, there, dangling, rfl⟩
      exact ⟨choice, place, there, by simp [dangling]; rfl⟩
  · cases node.choices <;> cases node.isTerminal <;> simp

theorem mem_formulaIssues {requirement : RollRequirement}
    (checked : formulaIssues id path requirement = .ok found) : issue ∈ found ↔
      ∃ formula reason, requirement.formula = some formula ∧
        DiceFormula.ofText formula = .error reason ∧
        issue = .badFormula id s!"{path}.formula" reason := by
  unfold formulaIssues at checked
  split at checked
  · rename_i absent
    cases checked
    simp [absent]
  · rename_i formula given
    split at checked
    · rename_i read
      cases checked
      simp [given, read]
    · cases checked
    · rename_i reason unforeseen unread
      cases checked
      simp [given, unread]

theorem mem_requirementIssues {requirements : List RollRequirement}
    (checked : requirementIssues id path requirements = .ok found) : issue ∈ found ↔
      ∃ (index : Nat) (requirement : RollRequirement) (formula : String) (reason : Failure),
        requirements[index]? = some requirement ∧ requirement.formula = some formula ∧
        DiceFormula.ofText formula = .error reason ∧
        issue = .badFormula id (formulaPath path index) reason := by
  obtain ⟨lists, each, rest⟩ := bind_eq_ok.mp checked
  obtain rfl := pure_eq_ok.mp rest
  rw [mem_flatten_of_mapM each]
  constructor
  · rintro ⟨⟨requirement, index⟩, member, list, read, inside⟩
    obtain ⟨formula, reason, given, unread, rfl⟩ := (mem_formulaIssues read).mp inside
    exact ⟨index, requirement, formula, reason, List.mem_zipIdx_iff_getElem?.mp member, given,
      unread, rfl⟩
  · rintro ⟨index, requirement, formula, reason, there, given, unread, rfl⟩
    have member : (requirement, index) ∈ requirements.zipIdx := List.mem_zipIdx_iff_getElem?.mpr there
    obtain ⟨list, _, read⟩ := mapM_result each member
    exact ⟨_, member, list, read, (mem_formulaIssues read).mpr ⟨formula, reason, given, unread, rfl⟩⟩

theorem mem_conditionIssues {conditions : List ConditionDef} :
    issue ∈ conditionIssues id path conditions ↔
      ∃ (index : Nat) (condition : ConditionDef) (reason : MalformedCondition),
      conditions[index]? = some condition ∧ condition.expression = .invalid reason ∧
      issue = .unreadableCondition id s!"{path}.conditions[{index}]" reason := by
  simp only [conditionIssues, List.mem_filterMap, Prod.exists, List.mem_zipIdx_iff_getElem?]
  constructor
  · rintro ⟨condition, index, there, made⟩
    split at made
    · rename_i reason unread
      cases made
      exact ⟨index, condition, reason, there, unread, rfl⟩
    · cases made
  · rintro ⟨index, condition, reason, there, unread, rfl⟩
    exact ⟨condition, index, there, by simp [unread]⟩

theorem mem_effectIssues {effects : List EffectDef} :
    issue ∈ effectIssues id path effects ↔
      ∃ (index : Nat) (effect : EffectDef), effects[index]? = some effect ∧
      (Effect.Target.ofName? effect.type = none ∧
          issue = .unknownEffectType id s!"{path}.effects[{index}]" ∨
        (Effect.Target.ofName? effect.type).isSome ∧
          Effect.Operation.ofName? effect.operation = none ∧
          issue = .unknownOperation id (s!"{path}.effects[{index}]" ++ ".operation")) := by
  simp only [effectIssues, List.mem_filterMap, Prod.exists, List.mem_zipIdx_iff_getElem?]
  constructor
  · rintro ⟨effect, index, there, made⟩
    refine ⟨index, effect, there, ?_⟩
    split at made
    · rename_i unknown
      cases made
      exact .inl ⟨by simpa using unknown, rfl⟩
    · rename_i known
      split at made
      · rename_i unknown
        cases made
        exact .inr ⟨by simpa [Option.isSome_iff_ne_none] using known, by simpa using unknown, rfl⟩
      · cases made
  · rintro ⟨index, effect, there, ⟨unknown, rfl⟩ | ⟨known, unknown, rfl⟩⟩
    · exact ⟨effect, index, there, by simp [unknown]⟩
    · obtain ⟨kind, known⟩ := Option.isSome_iff_exists.mp known
      exact ⟨effect, index, there, by simp [known, unknown]; rfl⟩

theorem mem_choiceIssues {place : Nat} {choice : StoryChoice}
    (checked : choiceIssues id place choice = .ok found) : issue ∈ found ↔
      issue ∈ conditionIssues id (choicePath place) choice.conditions ∨
      issue ∈ effectIssues id (choicePath place) choice.effects ∨
      ∃ (index : Nat) (requirement : RollRequirement) (formula : String) (reason : Failure),
        choice.rollRequirements[index]? = some requirement ∧ requirement.formula = some formula ∧
        DiceFormula.ofText formula = .error reason ∧
        issue = .badFormula id (rollPath place index) reason := by
  obtain ⟨rolls, required, rest⟩ := bind_eq_ok.mp checked
  obtain rfl := pure_eq_ok.mp rest
  rw [List.mem_append, List.mem_append, or_assoc, mem_requirementIssues required]
  rfl

theorem mem_flatten_choiceIssues {lists : List (List Issue)}
    (each : node.choices.zipIdx.mapM (fun (choice, index) => choiceIssues id index choice) = .ok lists) :
    issue ∈ lists.flatten ↔ ∃ (place : Nat) (choice : StoryChoice) (list : List Issue),
      node.choices[place]? = some choice ∧ choiceIssues id place choice = .ok list ∧ issue ∈ list := by
  rw [mem_flatten_of_mapM each]
  simp only [Prod.exists, List.mem_zipIdx_iff_getElem?]
  constructor
  · rintro ⟨choice, place, there, list, read, inside⟩
    exact ⟨place, choice, list, there, read, inside⟩
  · rintro ⟨place, choice, list, there, read, inside⟩
    exact ⟨choice, place, there, list, read, inside⟩

theorem mem_nodeIssues (checked : nodeIssues nodes id node = .ok found) :
    issue ∈ found ↔ Reports nodes id node issue := by
  obtain ⟨checks, rolled, rest⟩ := bind_eq_ok.mp checked
  obtain ⟨choices, each, rest⟩ := bind_eq_ok.mp rest
  obtain rfl := pure_eq_ok.mp rest
  rw [List.mem_append, List.mem_append, mem_referenceIssues, mem_requirementIssues rolled,
    mem_flatten_choiceIssues each]
  constructor
  · rintro (((⟨place, choice, there, dangling, rfl⟩ | ⟨closed, goesOn, rfl⟩) |
      ⟨index, requirement, formula, reason, inside, given, unread, rfl⟩) |
      ⟨place, choice, list, there, read, reported⟩)
    · exact .target there dangling
    · exact .stuck closed goesOn
    · exact .check inside given unread
    · rcases (mem_choiceIssues read).mp reported with gates | changes |
        ⟨index, requirement, formula, reason, inside, given, unread, rfl⟩
      · obtain ⟨index, condition, reason, inside, unread, rfl⟩ := mem_conditionIssues.mp gates
        exact .condition there inside unread
      · obtain ⟨index, effect, inside, ⟨unknown, rfl⟩ | ⟨known, unknown, rfl⟩⟩ :=
          mem_effectIssues.mp changes
        · exact .type there inside unknown
        · exact .operation there inside known unknown
      · exact .roll there inside given unread
  · intro reports
    have offered {place : Nat} {choice : StoryChoice} (there : node.choices[place]? = some choice)
        (told : ∀ list, choiceIssues id place choice = .ok list → issue ∈ list) :
        ∃ (place : Nat) (choice : StoryChoice) (list : List Issue),
          node.choices[place]? = some choice ∧ choiceIssues id place choice = .ok list ∧
          issue ∈ list := by
      have member : (choice, place) ∈ node.choices.zipIdx := List.mem_zipIdx_iff_getElem?.mpr there
      obtain ⟨list, _, read⟩ := mapM_result each member
      exact ⟨place, choice, list, there, read, told list read⟩
    cases reports with
    | target there dangling => exact .inl (.inl (.inl ⟨_, _, there, dangling, rfl⟩))
    | stuck closed goesOn => exact .inl (.inl (.inr ⟨closed, goesOn, rfl⟩))
    | check inside given unread => exact .inl (.inr ⟨_, _, _, _, inside, given, unread, rfl⟩)
    | condition there inside unread =>
      refine .inr (offered there fun list read => (mem_choiceIssues read).mpr (.inl ?_))
      exact mem_conditionIssues.mpr ⟨_, _, _, inside, unread, rfl⟩
    | type there inside unknown =>
      refine .inr (offered there fun list read => (mem_choiceIssues read).mpr (.inr (.inl ?_)))
      exact mem_effectIssues.mpr ⟨_, _, inside, .inl ⟨unknown, rfl⟩⟩
    | operation there inside known unknown =>
      refine .inr (offered there fun list read => (mem_choiceIssues read).mpr (.inr (.inl ?_)))
      exact mem_effectIssues.mpr ⟨_, _, inside, .inr ⟨known, unknown, rfl⟩⟩
    | roll there inside given unread =>
      refine .inr (offered there fun list read => (mem_choiceIssues read).mpr (.inr (.inr ?_)))
      exact ⟨_, _, _, _, inside, given, unread, rfl⟩

theorem issues_eq_ok {story start : Value} : issues story start nodes = .ok found ↔
    ∃ starts lists, startIssues story start nodes = .ok starts ∧
      nodes.mapM (fun entry => nodeIssues nodes entry.1 entry.2) = .ok lists ∧
      found = starts ++ lists.flatten ++ (unreachable nodes start).map .unreachable := by
  constructor
  · intro checked
    obtain ⟨starts, started, rest⟩ := bind_eq_ok.mp checked
    obtain ⟨lists, each, rest⟩ := bind_eq_ok.mp rest
    exact ⟨starts, lists, started, each, (pure_eq_ok.mp rest).symm⟩
  · rintro ⟨starts, lists, started, each, rfl⟩
    exact bind_eq_ok.mpr ⟨starts, started, bind_eq_ok.mpr ⟨lists, each, rfl⟩⟩

theorem mem_startIssues {story start : Value} {starts : List Issue}
    (checked : startIssues story start nodes = .ok starts) : issue ∈ starts ↔
      start.text?.any nodes.contains = false ∧ issue = .missingStart story start := by
  unfold startIssues at checked
  split at checked
  · cases checked
  · split at checked
    · rename_i there
      cases checked
      simp [there]
    · rename_i missing
      cases checked
      simpa using fun _ => missing

/-- Exactly the mistakes that are reported: the start, those of nodes, and unreachable nodes. -/
theorem mem_issues {story start : Value} (checked : issues story start nodes = .ok found) :
    issue ∈ found ↔
      (start.text?.any nodes.contains = false ∧ issue = .missingStart story start) ∨
      (∃ entry ∈ nodes, Reports nodes entry.1 entry.2 issue) ∨
      ∃ id ∈ unreachable nodes start, issue = .unreachable id := by
  obtain ⟨starts, lists, started, each, rfl⟩ := issues_eq_ok.mp checked
  rw [List.mem_append, List.mem_append, mem_startIssues started, mem_flatten_of_mapM each, or_assoc,
    List.mem_map]
  refine or_congr_right (or_congr ?_ ?_)
  · refine exists_congr fun entry => and_congr_right fun member => ?_
    obtain ⟨list, _, read⟩ := mapM_result each member
    constructor
    · rintro ⟨other, read, inside⟩
      exact (mem_nodeIssues read).mp inside
    · intro reports
      exact ⟨list, read, (mem_nodeIssues read).mpr reports⟩
  · simp only [eq_comm]

end Graph

/-- The node that a mistake was found in. -/
def Issue.host? : Issue → Option String
  | .missingTarget node .. | .deadEnd node | .unreadableCondition node .. | .unknownEffectType node _
  | .unknownOperation node _ | .badFormula node .. => some node
  | .missingStart .. | .unreachable _ => none

namespace Graph
variable {nodes : Table StoryNode} {id : String} {node : StoryNode} {found : List Issue}
  {issue : Issue}

theorem Reports.host? (reports : Reports nodes id node issue) : issue.host? = some id := by
  cases reports <;> simp [Issue.host?]

theorem mem_issues_iff {story start : Value} (checked : issues story start nodes = .ok found)
    (distinct : nodes.names.Nodup) (member : (id, node) ∈ nodes) (hosted : issue.host? = some id) :
    issue ∈ found ↔ Reports nodes id node issue := by
  rw [mem_issues checked]
  constructor
  · rintro (⟨_, rfl⟩ | ⟨⟨name, other⟩, member', reports⟩ | ⟨_, _, rfl⟩)
    · cases hosted
    · obtain rfl := Option.some.inj (reports.host?.symm.trans hosted)
      have here := Assoc.get?_of_mem distinct member
      have here' := Assoc.get?_of_mem distinct member'
      obtain rfl := Option.some.inj (here'.symm.trans here)
      exact reports
    · cases hosted
  · intro reports
    exact .inr (.inl ⟨(id, node), member, reports⟩)

theorem numbered_injective {a b : Nat} {rest other : List Char}
    (same : Nat.toDigits 10 a ++ ']' :: rest = Nat.toDigits 10 b ++ ']' :: other) :
    a = b ∧ rest = other := by
  have ends (rest : List Char) : Text.startsWithoutDigit (']' :: rest) = true := by
    simp [Text.startsWithoutDigit]
  have digits := congrArg (List.takeWhile Char.isDigit) same
  have left := congrArg (List.dropWhile Char.isDigit) same
  rw [Text.takeWhile_digits (Text.all_toDigits a) (ends rest),
    Text.takeWhile_digits (Text.all_toDigits b) (ends other)] at digits
  rw [Text.dropWhile_digits (Text.all_toDigits a) (ends rest),
    Text.dropWhile_digits (Text.all_toDigits b) (ends other)] at left
  refine ⟨?_, (List.cons.inj left).2⟩
  rw [← Nat.ofDigitChars_ten_toDigits (n := a), digits, Nat.ofDigitChars_ten_toDigits]

/-- The path of a part of a choice tells which part it is of which choice. -/
theorem within_injective {part : String} {place index place' index' : Nat}
    (same : "choices[" ++ toString place ++ "]" ++ part ++ toString index ++ "]" =
      "choices[" ++ toString place' ++ "]" ++ part ++ toString index' ++ "]") :
    place = place' ∧ index = index' := by
  have letters := congrArg String.toList same
  simp only [String.toList_append, List.append_assoc, Nat.toString_eq_repr, Nat.toList_repr] at letters
  obtain ⟨places, rest⟩ := numbered_injective (List.append_cancel_left letters)
  have rest : part.toList ++ _ = part.toList ++ _ := rest
  exact ⟨places, (numbered_injective (List.append_cancel_left rest)).1⟩

variable {place index place' index' : Nat}

theorem targetPath_injective (same : targetPath place = targetPath place') : place = place' := by
  have letters := congrArg String.toList same
  simp only [targetPath, String.toList_append, List.append_assoc, Nat.toString_eq_repr,
    Nat.toList_repr] at letters
  exact (numbered_injective (List.append_cancel_left letters)).1

theorem conditionPath_injective (same : conditionPath place index = conditionPath place' index') :
    place = place' ∧ index = index' := within_injective same

theorem effectPath_injective (same : effectPath place index = effectPath place' index') :
    place = place' ∧ index = index' := within_injective same

theorem operationPath_injective (same : operationPath place index = operationPath place' index') :
    place = place' ∧ index = index' :=
  effectPath_injective ((String.append_left_inj _).mp same)

theorem rollPath_eq (place index : Nat) : rollPath place index =
    "choices[" ++ toString place ++ "]" ++ ".roll_requirements[" ++ toString index ++ "]" ++
      ".formula" := by
  have joined : ".roll_requirements" ++ "[" = ".roll_requirements[" := by decide
  rw [← joined, ← String.append_assoc]
  rfl

theorem rollPath_injective (same : rollPath place index = rollPath place' index') :
    place = place' ∧ index = index' := by
  rw [rollPath_eq, rollPath_eq] at same
  exact within_injective ((String.append_left_inj _).mp same)

theorem rollPath_ne_checkPath : rollPath place index ≠ checkPath index' := by
  -- The first letters differ.
  intro same
  have same : _ = "dice_checks" ++ "[" ++ toString index' ++ "]" ++ ".formula" :=
    (rollPath_eq place index).symm.trans same
  have first := congrArg (fun text => text.toList.head?) same
  simp [String.toList_append] at first

theorem reports_target {target : String} :
    Reports nodes id node (.missingTarget id (targetPath place) target) ↔
      ∃ choice, node.choices[place]? = some choice ∧ nodes.contains choice.target = false ∧
        choice.target = target := by
  constructor
  · generalize same : targetPath place = path
    rintro ⟨there, dangling⟩
    obtain rfl := targetPath_injective same
    exact ⟨_, there, dangling, rfl⟩
  · rintro ⟨choice, there, dangling, rfl⟩
    exact .target there dangling

theorem reports_condition {reason : MalformedCondition} :
    Reports nodes id node (.unreadableCondition id (conditionPath place index) reason) ↔
      ∃ choice condition, node.choices[place]? = some choice ∧
        choice.conditions[index]? = some condition ∧ condition.expression = .invalid reason := by
  constructor
  · -- Reports of conditions differ in their paths only, which tell the condition.
    generalize same : conditionPath place index = path
    intro reports
    cases reports with
    | condition there inside unread =>
      obtain ⟨rfl, rfl⟩ := conditionPath_injective same
      exact ⟨_, _, there, inside, unread⟩
  · rintro ⟨choice, condition, there, inside, unread⟩
    exact .condition there inside unread

theorem reports_operation :
    Reports nodes id node (.unknownOperation id (operationPath place index)) ↔
      ∃ choice effect, node.choices[place]? = some choice ∧ choice.effects[index]? = some effect ∧
        (Effect.Target.ofName? effect.type).isSome ∧
        Effect.Operation.ofName? effect.operation = none := by
  constructor
  · generalize same : operationPath place index = path
    intro reports
    cases reports with
    | operation there inside known unknown =>
      obtain ⟨rfl, rfl⟩ := operationPath_injective same
      exact ⟨_, _, there, inside, known, unknown⟩
  · rintro ⟨choice, effect, there, inside, known, unknown⟩
    exact .operation there inside known unknown

theorem reports_roll {reason : Failure} :
    Reports nodes id node (.badFormula id (rollPath place index) reason) ↔
      ∃ choice requirement formula, node.choices[place]? = some choice ∧
        choice.rollRequirements[index]? = some requirement ∧
        requirement.formula = some formula ∧ DiceFormula.ofText formula = .error reason := by
  constructor
  · generalize same : rollPath place index = path
    intro reports
    cases reports with
    | check => exact absurd same rollPath_ne_checkPath
    | roll there inside given unread =>
      obtain ⟨rfl, rfl⟩ := rollPath_injective same
      exact ⟨_, _, _, there, inside, given, unread⟩
  · rintro ⟨choice, requirement, formula, there, inside, given, unread⟩
    exact .roll there inside given unread

end Graph
end Gamebook
