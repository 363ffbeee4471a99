import Gamebook.Proofs.Condition.Asking
import Gamebook.Proofs.Condition.Connectives
import Mathlib.Logic.Relation

/-!
Where an evaluation stops. An expression evaluates its operands in turn, each only where those before
it lead to it, so an evaluation stops exactly where it gets to a part that stops by itself: a path
that cannot be followed, a calculation that is spoiled, or a question for what is no key.
-/
namespace Gamebook.Condition

namespace Expr

theorem sizeOf_operand {expr part : Expr} (member : part ∈ expr.operands) :
    sizeOf part < sizeOf expr := by
  cases expr with
  | const value => cases member
  | invalid reason => cases member
  | not operand =>
    obtain rfl := List.mem_singleton.mp member
    rw [not.sizeOf_spec]
    omega
  | truth operand =>
    obtain rfl := List.mem_singleton.mp member
    rw [truth.sizeOf_spec]
    omega
  | lookup path fallback =>
    rw [lookup.sizeOf_spec]
    cases fallback with
    | none =>
      obtain rfl := List.mem_singleton.mp member
      omega
    | some other =>
      rw [Option.some.sizeOf_spec]
      rcases List.mem_pair.mp member with rfl | rfl <;> omega
  | member needle haystack =>
    rw [Expr.member.sizeOf_spec]
    rcases List.mem_pair.mp member with rfl | rfl <;> omega
  | _ =>
    have small := List.sizeOf_lt_of_mem member
    simp only [operands] at small
    simp
    omega

/-- What holds of an expression whenever it holds of its operands holds of every expression. -/
theorem induction_operands {motive : Expr → Prop}
    (step : ∀ expr, (∀ part ∈ expr.operands, motive part) → motive expr) (expr : Expr) :
    motive expr :=
  step expr fun part member =>
    have := sizeOf_operand member
    induction_operands step part
termination_by sizeOf expr

end Expr

/-- Something is so of one of the operands, and those before it lead to it. -/
def Among (leads : List Expr → Prop) (here : Expr → Prop) (operands : List Expr) : Prop :=
  ∃ before part after, operands = before ++ part :: after ∧ leads before ∧ here part

section
variable {leads : List Expr → Prop} {here other : Expr → Prop} {part : Expr} {operands : List Expr}

theorem among_nil : ¬ Among leads here [] := by
  rintro ⟨before, part, after, none, _⟩
  cases before <;> cases none

theorem among_cons : Among leads here (part :: operands) ↔
    leads [] ∧ here part ∨ Among (fun before => leads (part :: before)) here operands := by
  constructor
  · rintro ⟨before, inner, after, same, led, holds⟩
    cases before with
    | nil =>
      cases same
      exact .inl ⟨led, holds⟩
    | cons first before =>
      cases same
      exact .inr ⟨before, inner, after, rfl, led, holds⟩
  · rintro (⟨led, holds⟩ | ⟨before, inner, after, rfl, led, holds⟩)
    · exact ⟨[], part, operands, rfl, led, holds⟩
    · exact ⟨part :: before, inner, after, rfl, led, holds⟩

theorem among_single : Among leads here [part] ↔ leads [] ∧ here part := by
  rw [among_cons, or_iff_left among_nil]

theorem among_and {condition : Prop} :
    Among (fun before => condition ∧ leads before) here operands ↔
      condition ∧ Among leads here operands := by
  unfold Among
  grind

theorem among_or : Among leads (fun part => here part ∨ other part) operands ↔
    Among leads here operands ∨ Among leads other operands := by
  unfold Among
  grind

end

section
variable (context : Context)

def Gives (expr : Expr) (value : Value) : Prop :=
  evaluate context defaultPredicates expr = .ok value

def Stops (fault : Fault) (expr : Expr) : Prop :=
  evaluate context defaultPredicates expr = .error (.fault fault)

/-- Operands all have values, and each of them is fit to go on with. -/
def AllGive (fits : Value → Prop) (operands : List Expr) : Prop :=
  ∀ operand ∈ operands, ∃ value, Gives context operand value ∧ fits value

/-- The parts of a branch lead to what stands behind them: false conditions to the next condition,
and a true one to its result. -/
def Passes : List Expr → Prop
  | [] => True
  | [condition] => ∃ value, Gives context condition value ∧ value.truthy = true
  | condition :: _ :: rest =>
    (∃ value, Gives context condition value ∧ value.truthy = false) ∧ Passes rest

/-- The first operands of an expression lead to what stands behind them. -/
def Leads (expr : Expr) (before : List Expr) : Prop :=
  match expr with
  | .lookup _ _ => AllGive context (fun path => lookup context path = .ok none) before
  | .missing _ => AllGive context (fun path => ∃ gone, isMissing context path = .ok gone) before
  | .all _ => AllGive context (fun value => value.truthy = true) before
  | .any _ => AllGive context (fun value => value.truthy = false) before
  | .branch _ => Passes context before
  | .arithmetic _ _ => AllGive context (fun value => ∃ number, toNumber value = .ok number) before
  | .predicate name _ =>
    (defaultPredicates.get? name).isSome = true ∧ AllGive context (fun _ => True) before
  | _ => AllGive context (fun _ => True) before

/-- The evaluation of an expression gets to one of its operands. -/
def Next (expr part : Expr) : Prop := Among (Leads context expr) (part = ·) expr.operands

/-- What stops an expression of which no operand stops. -/
inductive Breaks : Expr → Fault → Prop
  | lookup {path : Expr} {fallback : Option Expr} {value : Value} (given : Gives context path value)
      (astray : Astray context.root value) : Breaks (.lookup path fallback) .badValue
  | missing {paths : List Expr} (reached : Among (Leads context (.missing paths))
      (fun path => ∃ value, Gives context path value ∧ Astray context.root value) paths) :
      Breaks (.missing paths) .badValue
  | arithmetic {operation : Operation} {operands : List Expr} {numbers : List Number} {fault : Fault}
      (given : evaluateNumbers context defaultPredicates operands = .ok numbers)
      (spoiled : Spoils operation numbers fault) : Breaks (.arithmetic operation operands) fault
  | member {needle haystack : Expr} {value table : Value} (sought : Gives context needle value)
      (searched : Gives context haystack table) (entries : table.entries?.isSome = true)
      (unfit : value.isKey = false) : Breaks (.member needle haystack) .wrongKind
  | predicate {name : String} {operands : List Expr} {values : List Value} {key : Value}
      (known : (defaultPredicates.get? name).isSome = true)
      (given : evaluateItems context defaultPredicates operands = .ok values)
      (asked : Asks context name values key) (unfit : key.isKey = false) :
      Breaks (.predicate name operands) .wrongKind

variable {context} {fault : Fault} {fits : Value → Prop} {part : Expr} {operands : List Expr}

theorem exists_next_iff {expr : Expr} :
    (∃ part, Next context expr part ∧ Stops context fault part) ↔
      Among (Leads context expr) (Stops context fault) expr.operands := by
  constructor
  · rintro ⟨part, ⟨before, _, after, same, led, rfl⟩, stops⟩
    exact ⟨before, part, after, same, led, stops⟩
  · rintro ⟨before, part, after, same, led, stops⟩
    exact ⟨part, ⟨before, part, after, same, led, rfl⟩, stops⟩

theorem mem_of_next {expr : Expr} (next : Next context expr part) : part ∈ expr.operands := by
  obtain ⟨before, _, after, same, _, rfl⟩ := next
  rw [same]
  exact List.mem_append_right _ (.head _)

theorem allGive_nil : AllGive context fits [] := List.forall_mem_nil _

theorem among_allGive_cons {here : Expr → Prop} : Among (AllGive context fits) here (part :: operands) ↔
    here part ∨ (∃ value, Gives context part value ∧ fits value) ∧
      Among (AllGive context fits) here operands := by
  rw [among_cons, and_iff_right allGive_nil]
  unfold AllGive
  simp only [List.forall_mem_cons, among_and]

theorem evaluateItems_eq_fault :
    evaluateItems context defaultPredicates operands = .error (.fault fault) ↔
      Among (AllGive context fun _ => True) (Stops context fault) operands := by
  induction operands with
  | nil => exact iff_of_false (by rintro ⟨⟩) among_nil
  | cons part operands ih =>
    rw [evaluateItems, bind_eq_error, among_allGive_cons]
    simp only [bind_pure_eq_error, ih, exists_and_right, and_true]
    rfl

theorem liftProblem_ne_fault {α : Type} (outcome : Except ConditionProblem α) :
    liftProblem outcome ≠ .error (.fault fault) := by
  cases outcome <;> rintro ⟨⟩

theorem liftProblem_eq_ok {α : Type} {outcome : Except ConditionProblem α} {value : α} :
    liftProblem outcome = .ok value ↔ outcome = .ok value := by
  cases outcome <;> simp [liftProblem, problem]

theorem evaluateNumbers_eq_fault :
    evaluateNumbers context defaultPredicates operands = .error (.fault fault) ↔
      Among (AllGive context fun value => ∃ number, toNumber value = .ok number) (Stops context fault)
        operands := by
  induction operands with
  | nil => exact iff_of_false (by rintro ⟨⟩) among_nil
  | cons part operands ih =>
    rw [evaluateNumbers, bind_eq_error, among_allGive_cons]
    simp only [bind_eq_error, pure, Except.pure, reduceCtorEq, and_false, exists_false, or_false, ih,
      liftProblem_ne_fault, liftProblem_eq_ok, false_or]
    unfold Stops Gives
    grind

theorem evaluateMissing_eq_fault :
    evaluateMissing context defaultPredicates operands = .error (.fault fault) ↔
      Among (AllGive context fun path => ∃ gone, isMissing context path = .ok gone)
        (fun path => Stops context fault path ∨
          ∃ value, Gives context path value ∧ fault = .badValue ∧ Astray context.root value)
        operands := by
  induction operands with
  | nil => exact iff_of_false (by rintro ⟨⟩) among_nil
  | cons part operands ih =>
    rw [evaluateMissing, bind_eq_error, among_allGive_cons]
    simp only [bind_eq_error, pure, Except.pure, reduceCtorEq, and_false, exists_false, or_false, ih,
      isMissing_eq_fault]
    unfold Stops Gives
    grind

theorem evaluateUntil_eq_fault {truth : Bool} {last : Value} :
    evaluateUntil context defaultPredicates truth last operands = .error (.fault fault) ↔
      Among (AllGive context fun value => value.truthy = !truth) (Stops context fault) operands := by
  induction operands generalizing last with
  | nil => exact iff_of_false (by rintro ⟨⟩) among_nil
  | cons part operands ih =>
    rw [evaluateUntil, bind_eq_error, among_allGive_cons]
    have later (value : Value) : (if value.truthy = truth then return value
        else evaluateUntil context defaultPredicates truth value operands) = .error (.fault fault) ↔
        value.truthy = (!truth) ∧
          Among (AllGive context fun value => value.truthy = !truth) (Stops context fault) operands := by
      by_cases decides : value.truthy = truth
      · rw [if_pos decides, decides]
        exact iff_of_false (by rintro ⟨⟩) fun both => by simp at both
      · rw [if_neg decides, ih, and_iff_right (Bool.eq_not.mpr decides)]
    simp only [later, ← and_assoc, exists_and_right]
    rfl

-- The recursion takes a condition and its result at a time.
theorem evaluateBranch_eq_fault (operands : List Expr) :
    evaluateBranch context defaultPredicates operands = .error (.fault fault) ↔
      Among (Passes context) (Stops context fault) operands := by
  match operands with
  | [] => exact iff_of_false (by rintro ⟨⟩) among_nil
  | [fallback] =>
    rw [evaluateBranch, among_single, Passes, true_and]
    rfl
  | condition :: result :: rest =>
    rw [evaluateBranch, bind_eq_error, among_cons, among_cons]
    simp only [Passes, among_and, true_and, ← evaluateBranch_eq_fault rest]
    refine or_congr_right ?_
    constructor
    · rintro ⟨value, given, failed⟩
      split at failed
      · rename_i holds
        exact .inl ⟨⟨value, given, holds⟩, failed⟩
      · rename_i fails
        exact .inr ⟨⟨value, given, Bool.eq_false_iff.mpr fails⟩, failed⟩
    · rintro (⟨⟨value, given, holds⟩, stops⟩ | ⟨⟨value, given, fails⟩, failed⟩)
      · exact ⟨value, given, (if_pos holds).trans stops⟩
      · exact ⟨value, given, (if_neg (Bool.eq_false_iff.mp fails)).trans failed⟩

theorem compareAll_ne_fault (comparison : Comparison) (values : List Value) :
    compareAll comparison values ≠ .error (.fault fault) := by
  unfold compareAll
  split
  · exact fun failed => liftProblem_ne_fault _ (bind_pure_eq_error.mp failed)
  · intro failed
    rcases bind_eq_error.mp failed with first | ⟨holds, _, rest⟩
    · exact liftProblem_ne_fault _ first
    · split at rest
      · exact liftProblem_ne_fault _ (bind_pure_eq_error.mp rest)
      · cases rest
  · rintro ⟨⟩

section
variable {expr : Expr}

theorem stops_iff_among (unbroken : ¬ Breaks context expr fault)
    (stopped : Stops context fault expr ↔
      Among (Leads context expr) (Stops context fault) expr.operands) :
    Stops context fault expr ↔
      Among (Leads context expr) (Stops context fault) expr.operands ∨ Breaks context expr fault :=
  stopped.trans (or_iff_left unbroken).symm

theorem stops_lookup {path : Expr} {fallback : Option Expr} :
    Stops context fault (.lookup path fallback) ↔
      Among (Leads context (.lookup path fallback)) (Stops context fault) (path :: fallback.toList) ∨
        Breaks context (.lookup path fallback) fault := by
  have breaks : Breaks context (.lookup path fallback) fault ↔
      ∃ value, Gives context path value ∧ fault = .badValue ∧ Astray context.root value := by
    constructor
    · rintro ⟨given, astray⟩
      exact ⟨_, given, rfl, astray⟩
    · rintro ⟨value, given, rfl, astray⟩
      exact .lookup given astray
  have rest : Among (Leads context (.lookup path fallback)) (Stops context fault)
      (path :: fallback.toList) ↔ Stops context fault path ∨
        (∃ value, Gives context path value ∧ lookup context value = .ok none) ∧
          ∃ other, fallback = some other ∧ Stops context fault other := by
    refine among_allGive_cons.trans (or_congr_right (and_congr_right fun _ => ?_))
    cases fallback with
    | none => exact iff_of_false among_nil (by rintro ⟨_, ⟨⟩, _⟩)
    | some other => simp [among_single, and_iff_right allGive_nil]
  rw [breaks, rest, Stops, evaluate, bind_eq_error, or_assoc]
  refine or_congr_right ?_
  constructor
  · rintro ⟨value, given, failed⟩
    rcases bind_eq_error.mp failed with lost | ⟨found, looked, failed⟩
    · exact .inr ⟨value, given, lookup_eq_fault.mp lost⟩
    · cases found with
      | some found => cases failed
      | none =>
        cases fallback with
        | none => cases failed
        | some other => exact .inl ⟨⟨value, given, looked⟩, other, rfl, failed⟩
  · rintro (⟨⟨value, given, looked⟩, other, rfl, stops⟩ | ⟨value, given, lost⟩)
    · exact ⟨value, given, bind_eq_error.mpr (.inr ⟨none, looked, stops⟩)⟩
    · exact ⟨value, given, bind_eq_error.mpr (.inl (lookup_eq_fault.mpr lost))⟩

theorem stops_missing {paths : List Expr} : Stops context fault (.missing paths) ↔
    Among (Leads context (.missing paths)) (Stops context fault) paths ∨
      Breaks context (.missing paths) fault := by
  rw [Stops, evaluate, bind_pure_eq_error, evaluateMissing_eq_fault, among_or]
  refine or_congr_right ?_
  constructor
  · rintro ⟨before, path, after, same, led, value, given, rfl, astray⟩
    exact .missing ⟨before, path, after, same, led, value, given, astray⟩
  · rintro (_ | ⟨before, path, after, same, led, value, given, astray⟩)
    exact ⟨before, path, after, same, led, value, given, rfl, astray⟩

theorem length_evaluateNumbers {numbers : List Number}
    (given : evaluateNumbers context defaultPredicates operands = .ok numbers) :
    numbers.length = operands.length := by
  induction operands generalizing numbers with
  | nil =>
    cases given
    rfl
  | cons part operands ih =>
    rw [evaluateNumbers] at given
    obtain ⟨value, _, given⟩ := bind_eq_ok.mp given
    obtain ⟨number, _, given⟩ := bind_eq_ok.mp given
    obtain ⟨rest, others, given⟩ := bind_eq_ok.mp given
    obtain rfl := pure_eq_ok.mp given
    rw [List.length_cons, List.length_cons, ih others]

theorem stops_arithmetic {operation : Operation}
    (takes : Takes operation.name operands.length) :
    Stops context fault (.arithmetic operation operands) ↔
      Among (Leads context (.arithmetic operation operands)) (Stops context fault) operands ∨
        Breaks context (.arithmetic operation operands) fault := by
  rw [Stops, evaluate, bind_eq_error, evaluateNumbers_eq_fault]
  refine or_congr_right ?_
  constructor
  · rintro ⟨numbers, given, failed⟩
    rw [← length_evaluateNumbers given] at takes
    exact .arithmetic given ((calculate_eq_fault takes).mp (bind_pure_eq_error.mp failed))
  · rintro (_ | _ | ⟨given, spoiled⟩)
    rw [← length_evaluateNumbers given] at takes
    exact ⟨_, given, bind_pure_eq_error.mpr ((calculate_eq_fault takes).mpr spoiled)⟩

theorem stops_member {needle haystack : Expr} : Stops context fault (.member needle haystack) ↔
    Among (Leads context (.member needle haystack)) (Stops context fault) [needle, haystack] ∨
      Breaks context (.member needle haystack) fault := by
  have rest : Among (Leads context (.member needle haystack)) (Stops context fault)
      [needle, haystack] ↔ Stops context fault needle ∨
        (∃ value, Gives context needle value) ∧ Stops context fault haystack := by
    refine among_allGive_cons.trans ?_
    simp only [among_single, and_iff_right allGive_nil, and_true]
  rw [rest, Stops, evaluate, bind_eq_error, or_assoc]
  refine or_congr_right ?_
  constructor
  · rintro ⟨value, sought, failed⟩
    rcases bind_eq_error.mp failed with stops | ⟨table, searched, failed⟩
    · exact .inl ⟨⟨value, sought⟩, stops⟩
    · obtain ⟨rfl, entries, unfit⟩ := isMember_eq_fault.mp (bind_pure_eq_error.mp failed)
      exact .inr (.member sought searched entries unfit)
  · rintro (⟨⟨value, sought⟩, stops⟩ | _ | _ | _ | ⟨sought, searched, entries, unfit⟩)
    · exact ⟨value, sought, bind_eq_error.mpr (.inl stops)⟩
    · refine ⟨_, sought, bind_eq_error.mpr (.inr ⟨_, searched, bind_pure_eq_error.mpr ?_⟩)⟩
      exact isMember_eq_fault.mpr ⟨rfl, entries, unfit⟩

theorem stops_predicate {name : String} : Stops context fault (.predicate name operands) ↔
    Among (Leads context (.predicate name operands)) (Stops context fault) operands ∨
      Breaks context (.predicate name operands) fault := by
  rw [Stops, evaluate]
  cases known : defaultPredicates.get? name with
  | none =>
    have unknown : (defaultPredicates.get? name).isSome ≠ true := by simp [known]
    refine iff_of_false (by rintro ⟨⟩) ?_
    rintro (among | broken)
    · exact unknown (among_and.mp among).1
    · cases broken
      exact unknown ‹_›
  | some predicate =>
    have rest : Among (Leads context (.predicate name operands)) (Stops context fault) operands ↔
        Among (AllGive context fun _ => True) (Stops context fault) operands := by
      have holds : (defaultPredicates.get? name).isSome = true := by rw [known]; rfl
      exact among_and.trans (and_iff_right holds)
    dsimp only
    rw [rest, bind_eq_error, evaluateItems_eq_fault]
    refine or_congr_right ?_
    constructor
    · rintro ⟨values, given, failed⟩
      obtain ⟨rfl, key, asked, unfit⟩ := (predicate_eq_fault known).mp failed
      exact .predicate (by rw [known]; rfl) given asked unfit
    · rintro (_ | _ | _ | _ | ⟨_, given, asked, unfit⟩)
      exact ⟨_, given, (predicate_eq_fault known).mpr ⟨rfl, _, asked, unfit⟩⟩

theorem stops_single {operand : Expr} {change : Value → Value}
    (made : evaluate context defaultPredicates expr =
      evaluate context defaultPredicates operand >>= fun value => pure (change value)) :
    Stops context fault expr ↔
      Among (AllGive context fun _ => True) (Stops context fault) [operand] := by
  rw [Stops, made, bind_pure_eq_error, among_single, and_iff_right allGive_nil]
  rfl

/-- An expression stops because an operand that it gets to does, or by itself. -/
theorem stops_iff (proper : expr.IsProper) : Stops context fault expr ↔
    Among (Leads context expr) (Stops context fault) expr.operands ∨ Breaks context expr fault := by
  cases expr with
  | const value =>
    exact stops_iff_among (by rintro ⟨⟩) (iff_of_false (by rintro ⟨⟩) among_nil)
  | invalid reason => exact proper.elim
  | array items =>
    refine stops_iff_among (by rintro ⟨⟩) ?_
    rw [Stops, evaluate, bind_pure_eq_error, evaluateItems_eq_fault]
    rfl
  | not operand => exact stops_iff_among (by rintro ⟨⟩) (stops_single rfl)
  | truth operand => exact stops_iff_among (by rintro ⟨⟩) (stops_single rfl)
  | compare comparison operands =>
    refine stops_iff_among (by rintro ⟨⟩) ?_
    rw [Stops, evaluate, bind_eq_error, evaluateItems_eq_fault]
    refine or_iff_left ?_
    rintro ⟨values, _, failed⟩
    exact compareAll_ne_fault _ _ failed
  | all operands =>
    refine stops_iff_among (by rintro ⟨⟩) ?_
    rw [Stops, evaluate, evaluateAll_eq, evaluateUntil_eq_fault]
    rfl
  | any operands =>
    refine stops_iff_among (by rintro ⟨⟩) ?_
    rw [Stops, evaluate, evaluateAny_eq, evaluateUntil_eq_fault]
    rfl
  | branch parts =>
    refine stops_iff_among (by rintro ⟨⟩) ?_
    rw [Stops, evaluate, evaluateBranch_eq_fault]
    rfl
  | lookup path fallback => exact stops_lookup
  | missing paths => exact stops_missing
  | arithmetic operation operands => exact stops_arithmetic proper
  | member needle haystack => exact stops_member
  | predicate name operands => exact stops_predicate

end
end

section
variable (context : Context)

/-- The parts that an evaluation gets to. -/
def Reaches : Expr → Expr → Prop := Relation.ReflTransGen (Next context)

variable {context} {fault : Fault}

-- By induction over the operands, since these are what an evaluation goes on with.
theorem stops_iff_reaches {expr : Expr}
    (proper : ∀ level part, Below Expr.operands level expr part → part.IsProper) :
    Stops context fault expr ↔ ∃ part, Reaches context expr part ∧ Breaks context part fault := by
  induction expr using Expr.induction_operands with
  | step expr ih =>
    have inner (part : Expr) (member : part ∈ expr.operands) := ih part member
      fun level other under => proper (level + 1) other (.part member under)
    rw [stops_iff (proper 0 expr (.root expr)), ← exists_next_iff]
    constructor
    · rintro (⟨part, next, stops⟩ | broken)
      · obtain ⟨last, reached, broken⟩ := (inner part (mem_of_next next)).mp stops
        exact ⟨last, .head next reached, broken⟩
      · exact ⟨expr, .refl, broken⟩
    · rintro ⟨last, reached, broken⟩
      rcases reached.cases_head with rfl | ⟨part, next, reached⟩
      · exact .inr broken
      · exact .inl ⟨part, next, (inner part (mem_of_next next)).mpr ⟨last, reached, broken⟩⟩

theorem stops_ofDocument {document : Value} : Stops context fault (.ofDocument document) ↔
    ∃ part, Reaches context (.ofDocument document) part ∧ Breaks context part fault := by
  cases parsed : parseAt 0 document with
  | ok expression =>
    have same : Expr.ofDocument document = expression := by rw [Expr.ofDocument, parsed]
    rw [same]
    refine stops_iff_reaches fun level part under => ?_
    obtain ⟨inner, parsed⟩ := source_of_part under parsed
    exact (parseAt_sound parsed).2.1
  | error reason =>
    have same : Expr.ofDocument document = .invalid reason := by rw [Expr.ofDocument, parsed]
    rw [same]
    refine iff_of_false (by rintro ⟨⟩) ?_
    rintro ⟨last, reached, broken⟩
    rcases reached.cases_head with rfl | ⟨part, next, _⟩
    · cases broken
    · cases mem_of_next next

end

end Gamebook.Condition
