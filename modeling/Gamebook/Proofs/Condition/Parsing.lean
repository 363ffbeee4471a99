import Gamebook.Proofs.Condition.Checking
import Gamebook.Proofs.Table
import Mathlib.Tactic.SplitIfs

/-!
Which documents are conditions. A document is refused exactly if something that is parsed with it has
no single operator, has operands that its operator does not take, or stands too deep; what is accepted
has a proper expression at every place.
-/
namespace Gamebook.Condition

/-- Stands so many levels below the root of a whole. -/
inductive Below {α : Type} (parts : α → List α) : Nat → α → α → Prop
  | root (whole : α) : Below parts 0 whole whole
  | part {level : Nat} {whole next inner : α} (member : next ∈ parts whole)
      (under : Below parts level next inner) : Below parts (level + 1) whole inner

theorem Below.trans {α : Type} {parts : α → List α} {upper lower : Nat} {whole middle inner : α}
    (first : Below parts upper whole middle) (second : Below parts lower middle inner) :
    Below parts (upper + lower) whole inner := by
  induction first with
  | root => simpa using second
  | part member _ ih =>
    rw [Nat.add_right_comm]
    exact .part member (ih second)

/-- The least and the most operands of the built-in operators. -/
def arities : Table (Nat × Option Nat) := [
  ("==", 2, some 2), ("!=", 2, some 2), ("===", 2, some 2), ("!==", 2, some 2),
  ("<", 2, some 3), ("<=", 2, some 3), (">", 2, some 2), (">=", 2, some 2),
  ("+", 1, none), ("*", 1, none), ("-", 1, some 2), ("/", 2, some 2), ("%", 2, some 2),
  ("min", 1, none), ("max", 1, none), ("and", 1, none), ("or", 1, none), ("!", 1, some 1),
  ("!!", 1, some 1), ("if", 1, none), ("?:", 1, none), ("in", 2, some 2), ("var", 1, some 2)]

/-- Predicates and lists of missing paths take any number of operands. -/
def Takes (operator : String) (count : Nat) : Prop :=
  let arity := (arities.get? operator).getD (0, none)
  arity.1 ≤ count ∧ ∀ most ∈ arity.2, count ≤ most

/-- The items of a list, or a single document in the place of one. -/
def listed (document : Value) : List Value := document.items?.getD [document]

/-- The paths to look for, which may stand in a list of their own. -/
def sought : List Value → List Value
  | [paths] => listed paths
  | paths => paths

/-- What is parsed for an operator. -/
def operandsFor (operator : String) (operand : Value) : List Value :=
  if operator = "missing" then sought (listed operand) else listed operand

/-- The documents inside a document that are parsed with it. -/
def operandsOf : Value → List Value
  | .list items | .tuple items => items
  | .object [(operator, operand)] => operandsFor operator operand
  | _ => []

/-- An object that is no operator with operands it takes. -/
def Malformed : Value → Prop
  | .object [(operator, operand)] =>
    operator = "" ∨ ¬ Takes operator (operandsFor operator operand).length
  | .object _ => True
  | _ => False

namespace Expr

def operands : Expr → List Expr
  | .const _ | .invalid _ => []
  | .lookup path fallback => path :: fallback.toList
  | .array operands | .missing operands | .compare _ operands | .all operands | .any operands
  | .branch operands | .arithmetic _ operands | .predicate _ operands => operands
  | .not operand | .truth operand => [operand]
  | .member needle haystack => [needle, haystack]

/-- No expression that stands for a refused document, and none with operands it does not take. -/
def IsProper : Expr → Prop
  | .compare comparison operands => Takes comparison.name operands.length
  | .arithmetic operation operands => Takes operation.name operands.length
  | .all operands | .any operands | .branch operands => operands ≠ []
  | .invalid _ => False
  | _ => True

end Expr

theorem Comparison.name_of_ofName? {name : String} {comparison : Comparison}
    (found : Comparison.ofName? name = some comparison) : comparison.name = name := by
  simpa using List.find?_some found

theorem Operation.name_of_ofName? {name : String} {operation : Operation}
    (found : Operation.ofName? name = some operation) : operation.name = name := by
  simpa using List.find?_some found

theorem Comparison.takes_iff (comparison : Comparison) (count : Nat) :
    Takes comparison.name count ↔ 2 ≤ count ∧ count ≤ comparison.mostOperands := by
  cases comparison <;> simp [Takes, arities, Assoc.get?, name, mostOperands]

theorem Operation.takes_iff (operation : Operation) (count : Nat) :
    Takes operation.name count ↔ operation.leastOperands ≤ count ∧
      ∀ most ∈ operation.mostOperands, count ≤ most := by
  cases operation <;> simp [Takes, arities, Assoc.get?, name, leastOperands, mostOperands]

theorem checkCount_eq_ok {operator : String} {least : Nat} {most : Option Nat} {operands : List Expr}
    {result : Unit} : checkCount operator least most operands = .ok result ↔
      least ≤ operands.length ∧ ∀ bound ∈ most, operands.length ≤ bound := by
  cases most <;> simp [checkCount]

/-- The expression of an operator and its operands, whichever operator it is. -/
def build (operator : String) (operands : List Expr) : Parsed Expr :=
  if operator = "var" then
    match operands with
    | [path] => .ok (.lookup path none)
    | [path, fallback] => .ok (.lookup path (some fallback))
    | _ => .error .variableOperands
  else if operator = "missing" then .ok (.missing operands)
  else Expr.ofOperator operator operands

/-- A proper expression of exactly the operands, if the operator takes them. -/
inductive Built (operator : String) (operands : List Expr) : Parsed Expr → Prop
  | accepted {expression : Expr} (takes : Takes operator operands.length)
      (proper : expression.IsProper) (whole : expression.operands = operands) :
      Built operator operands (.ok expression)
  | refused {reason : MalformedCondition} (refuses : ¬ Takes operator operands.length) :
      Built operator operands (.error reason)

section
variable {operator : String} {operands : List Expr}

private theorem built_counted {least : Nat} {most : Option Nat} {expression : Expr}
    (takes : Takes operator operands.length ↔
      least ≤ operands.length ∧ ∀ bound ∈ most, operands.length ≤ bound)
    (proper : Takes operator operands.length → expression.IsProper)
    (whole : expression.operands = operands) :
    Built operator operands (do
      checkCount operator least most operands
      return expression) := by
  cases counted : checkCount operator least most operands with
  | ok _ =>
    have enough := takes.mpr (checkCount_eq_ok.mp counted)
    exact .accepted enough (proper enough) whole
  | error reason =>
    refine .refused fun enough => ?_
    have fine : checkCount operator least most operands = .ok () :=
      checkCount_eq_ok.mpr (takes.mp enough)
    rw [fine] at counted
    cases counted

private theorem built_nonempty {make : List Expr → Expr}
    (takes : ∀ count, Takes operator count ↔ 1 ≤ count)
    (proper : operands ≠ [] → (make operands).IsProper) (whole : (make operands).operands = operands) :
    Built operator operands (do
      checkCount operator 1 none operands
      return make operands) := by
  refine built_counted (by simp [takes]) (fun enough => proper ?_) whole
  exact List.ne_nil_of_length_pos ((takes _).mp enough)

private theorem built_unary {make : Expr → Expr} (takes : ∀ count, Takes operator count ↔ count = 1)
    (proper : ∀ operand, (make operand).IsProper)
    (whole : ∀ operand, (make operand).operands = [operand]) :
    Built operator operands (unary operator make operands) := by
  match operands with
  | [] => exact .refused (by simp [takes])
  | [operand] => exact .accepted ((takes 1).mpr rfl) (proper operand) (whole operand)
  | _ :: _ :: _ => exact .refused (by simp [takes])

private theorem takes_builtIn (count : Nat) :
    (Takes "and" count ↔ 1 ≤ count) ∧ (Takes "or" count ↔ 1 ≤ count) ∧
    (Takes "if" count ↔ 1 ≤ count) ∧ (Takes "?:" count ↔ 1 ≤ count) ∧
    (Takes "!" count ↔ count = 1) ∧ (Takes "!!" count ↔ count = 1) ∧ (Takes "in" count ↔ count = 2) ∧
    (Takes "var" count ↔ 1 ≤ count ∧ count ≤ 2) ∧ Takes "missing" count := by
  simp [Takes, arities, Assoc.get?]
  omega

theorem takes_of_new {name : String} (new : name ∉ arities.keys) (count : Nat) : Takes name count := by
  have none : arities.get? name = none := by
    rw [← Option.not_isSome_iff_eq_none, Assoc.isSome_get?]
    intro present
    obtain ⟨entry, member, same⟩ := List.any_eq_true.mp present
    exact new (List.mem_map.mpr ⟨entry, member, beq_iff_eq.mp same⟩)
  simp [Takes, none]

private theorem keys_arities : arities.keys = Comparison.all.map Comparison.name ++
    (Operation.all.map Operation.name ++ ["and", "or", "!", "!!", "if", "?:", "in", "var"]) := rfl

theorem ofOperator_built (named : operator ≠ "var") :
    Built operator operands (Expr.ofOperator operator operands) := by
  unfold Expr.ofOperator
  cases compares : Comparison.ofName? operator with
  | some comparison =>
    obtain rfl := Comparison.name_of_ofName? compares
    exact built_counted (by simp [comparison.takes_iff]) id rfl
  | none =>
    cases calculates : Operation.ofName? operator with
    | some operation =>
      obtain rfl := Operation.name_of_ofName? calculates
      exact built_counted (operation.takes_iff _) id rfl
    | none =>
      dsimp only
      split_ifs with isAll isAny isNot isTruth isBranch isMember
      · subst isAll
        exact built_nonempty (by simp [takes_builtIn]) id rfl
      · subst isAny
        exact built_nonempty (by simp [takes_builtIn]) id rfl
      · subst isNot
        exact built_unary (by simp [takes_builtIn]) (fun _ => trivial) fun _ => rfl
      · subst isTruth
        exact built_unary (by simp [takes_builtIn]) (fun _ => trivial) fun _ => rfl
      · rcases Bool.or_eq_true_iff.mp isBranch with same | same <;> obtain rfl := of_decide_eq_true same
        · exact built_nonempty (by simp [takes_builtIn]) id rfl
        · exact built_nonempty (by simp [takes_builtIn]) id rfl
      · subst isMember
        match operands with
        | [needle, haystack] => exact .accepted (by simp [takes_builtIn]) trivial rfl
        | [] => exact .refused (by simp [takes_builtIn])
        | [_] => exact .refused (by simp [takes_builtIn])
        | _ :: _ :: _ :: _ => exact .refused (by simp [takes_builtIn])
      -- What is left has none of the names in the table, so it is a predicate.
      · refine .accepted (takes_of_new ?_ _) trivial rfl
        have others : operator ∉ ["and", "or", "!", "!!", "if", "?:", "in", "var"] := by simp_all
        rw [keys_arities, List.mem_append, List.mem_append, List.mem_map, List.mem_map]
        rintro (⟨comparison, member, rfl⟩ | ⟨operation, member, rfl⟩ | other)
        · exact List.find?_eq_none.mp compares comparison member (decide_eq_true rfl)
        · exact List.find?_eq_none.mp calculates operation member (decide_eq_true rfl)
        · exact others other

theorem build_built : Built operator operands (build operator operands) := by
  unfold build
  split_ifs with isLookup isMissing
  · subst isLookup
    match operands with
    | [path] => exact .accepted (by simp [takes_builtIn]) trivial rfl
    | [path, fallback] => exact .accepted (by simp [takes_builtIn]) trivial rfl
    | [] => exact .refused (by simp [takes_builtIn])
    | _ :: _ :: _ :: _ => exact .refused (by simp [takes_builtIn])
  · subst isMissing
    exact .accepted (by simp [takes_builtIn]) trivial rfl
  · exact ofOperator_built isLookup

end

section
variable {depth : Nat} {expression : Expr}

theorem parseItems_eq (items : List Value) : parseItems depth items = items.mapM (parseAt depth) := by
  induction items with
  | nil => rfl
  | cons item items ih =>
    rw [List.mapM_cons, ← ih]
    rfl

-- The fallback is parsed before the path, so only what succeeds is as for a list.
private theorem parseLookup_eq_ok {operands : List Value} :
    parseLookup depth operands = .ok expression ↔ ∃ parts,
      operands.mapM (parseAt depth) = .ok parts ∧ build "var" parts = .ok expression := by
  simp only [mapM_eq_ok]
  constructor
  · intro parsed
    match operands with
    | [path] =>
      obtain ⟨first, head, rest⟩ := bind_eq_ok.mp parsed
      exact ⟨[first], .cons head .nil, rest⟩
    | [path, fallback] =>
      obtain ⟨second, tail, rest⟩ := bind_eq_ok.mp parsed
      obtain ⟨first, head, rest⟩ := bind_eq_ok.mp rest
      exact ⟨[first, second], .cons head (.cons tail .nil), rest⟩
    | [] => cases parsed
    | _ :: _ :: _ :: _ => cases parsed
  · rintro ⟨_, _ | ⟨head, _ | ⟨tail, _ | ⟨_, _⟩⟩⟩, built⟩
    · cases built
    · exact bind_eq_ok.mpr ⟨_, head, built⟩
    · exact bind_eq_ok.mpr ⟨_, tail, bind_eq_ok.mpr ⟨_, head, built⟩⟩
    · cases built

private theorem parsePaths_eq_ok {paths : List Value} :
    (do return Expr.missing (← parseItems depth paths) : Parsed Expr) = .ok expression ↔
      ∃ parts, paths.mapM (parseAt depth) = .ok parts ∧ build "missing" parts = .ok expression := by
  rw [parseItems_eq, bind_eq_ok]
  rfl

private theorem parseMissing_eq_ok {operands : List Value} :
    parseMissing depth operands = .ok expression ↔ ∃ parts,
      (sought operands).mapM (parseAt depth) = .ok parts ∧ build "missing" parts = .ok expression := by
  rw [← parsePaths_eq_ok]
  unfold parseMissing
  split
  · rfl
  · rfl
  · rfl
  · rename_i head tail noList noTuple
    have own : sought (head :: tail) = head :: tail := by
      cases tail with
      | cons => rfl
      | nil => cases head <;> first | rfl | cases noList _ rfl rfl | cases noTuple _ rfl rfl
    rw [own]
    simp [parseItems, bind_eq_ok]

private theorem parseFields_list_eq_ok {operator : String} {operands : List Value} :
    parseFields depth [(operator, .list operands)] = .ok expression ↔ operator ≠ "" ∧
      ∃ parts, (operandsFor operator (.list operands)).mapM (parseAt depth) = .ok parts ∧
        build operator parts = .ok expression := by
  unfold parseFields
  split_ifs with unnamed isLookup isMissing
  · exact ⟨nofun, fun named => absurd unnamed named.1⟩
  · subst isLookup
    exact parseLookup_eq_ok.trans (and_iff_right unnamed).symm
  · subst isMissing
    exact parseMissing_eq_ok.trans (and_iff_right unnamed).symm
  · rw [bind_eq_ok, parseItems_eq, and_iff_right unnamed, operandsFor, if_neg isMissing]
    simp only [build, if_neg isLookup, if_neg isMissing]
    rfl

private theorem parseFields_single_eq_ok {operator : String} {operand : Value}
    (single : operand.items? = none) :
    parseFields depth [(operator, operand)] = .ok expression ↔ operator ≠ "" ∧
      ∃ parts, (operandsFor operator operand).mapM (parseAt depth) = .ok parts ∧
        build operator parts = .ok expression := by
  have alone : operandsFor operator operand = [operand] := by
    simp [operandsFor, sought, listed, single]
  have parsed : parseFields depth [(operator, operand)] =
      if operator = "" then .error .unnamedOperator
      else parseAt depth operand >>= fun part => build operator [part] := by
    cases operand <;> first | rfl | cases single
  rw [parsed, alone]
  split_ifs with unnamed
  · exact ⟨nofun, fun named => absurd unnamed named.1⟩
  · rw [bind_eq_ok, and_iff_right unnamed]
    constructor
    · rintro ⟨part, head, built⟩
      exact ⟨[part], mapM_eq_ok.mpr (.cons head .nil), built⟩
    · rintro ⟨parts, each, built⟩
      obtain _ | ⟨head, _ | _⟩ := mapM_eq_ok.mp each
      exact ⟨_, head, built⟩

theorem parseFields_eq_ok {operator : String} {operand : Value} :
    parseFields depth [(operator, operand)] = .ok expression ↔ operator ≠ "" ∧
      ∃ parts, (operandsFor operator operand).mapM (parseAt depth) = .ok parts ∧
        build operator parts = .ok expression := by
  cases several : operand.items? with
  | none => exact parseFields_single_eq_ok several
  | some items =>
    cases operand <;> cases several
    · exact parseFields_list_eq_ok
    · exact parseFields_list_eq_ok

/-- The expression of a document whose parts are read. -/
def assemble (document : Value) (parts : List Expr) : Parsed Expr :=
  match document with
  | .list _ | .tuple _ => .ok (.array parts)
  | .object [(operator, _)] =>
    if operator = "" then .error .unnamedOperator else build operator parts
  | .object fields => .error (.operatorCount (sortedNames fields))
  | scalar => .ok (.const scalar)

theorem parseAt_eq_ok {document : Value} : parseAt depth document = .ok expression ↔
    depth ≤ maxDepth ∧ ∃ parts, (operandsOf document).mapM (parseAt (depth + 1)) = .ok parts ∧
      assemble document parts = .ok expression := by
  unfold parseAt
  split_ifs with deep
  · exact ⟨nofun, fun shallow => absurd deep (Nat.not_lt.mpr shallow.1)⟩
  · rw [and_iff_right (Nat.le_of_not_lt deep)]
    match document with
    | .list items | .tuple items =>
      dsimp only [operandsOf, assemble]
      rw [parseItems_eq]
      cases items.mapM (parseAt (depth + 1)) <;> simp [Except.map]
    | .object [(operator, operand)] =>
      rw [parseFields_eq_ok, ← exists_and_left]
      refine exists_congr fun parts => ?_
      rw [and_left_comm]
      refine and_congr_right fun _ => ?_
      dsimp only [assemble]
      split_ifs with unnamed
      · exact ⟨fun named => absurd unnamed named.1, nofun⟩
      · exact and_iff_right unnamed
    | .object [] => exact ⟨nofun, by rintro ⟨_, _, ⟨⟩⟩⟩
    | .object ((_, operand) :: _ :: _) =>
      constructor
      · cases operand <;> nofun
      · rintro ⟨_, _, ⟨⟩⟩
    | .null | .bool _ | .int _ | .real _ | .text _ | .view _ => simp [operandsOf, assemble, pure_eq_ok]

/-- What one level of a document is made into. -/
inductive Assembled (document : Value) (parts : List Expr) : Parsed Expr → Prop
  | accepted {expression : Expr} (wellFormed : ¬ Malformed document) (proper : expression.IsProper)
      (whole : expression.operands = parts) : Assembled document parts (.ok expression)
  | refused {reason : MalformedCondition} (malformed : Malformed document) :
      Assembled document parts (.error reason)

theorem assemble_assembled {document : Value} {parts : List Expr}
    (fits : (operandsOf document).length = parts.length) :
    Assembled document parts (assemble document parts) := by
  match document with
  | .list items | .tuple items => exact .accepted id trivial rfl
  | .object [(operator, operand)] =>
    change (operandsFor operator operand).length = parts.length at fits
    dsimp only [assemble]
    split_ifs with unnamed
    · exact .refused (.inl unnamed)
    · have made : Built operator parts (build operator parts) := build_built
      cases result : build operator parts with
      | ok expression =>
        rw [result] at made
        obtain ⟨takes, proper, whole⟩ := made
        refine .accepted ?_ proper whole
        rintro (same | refuses)
        · exact unnamed same
        · exact refuses (fits ▸ takes)
      | error reason =>
        rw [result] at made
        obtain _ | refuses := made
        exact .refused (.inr (fits ▸ refuses))
  | .object [] | .object (_ :: _ :: _) => exact .refused trivial
  | .null | .bool _ | .int _ | .real _ | .text _ | .view _ =>
    obtain rfl := List.length_eq_zero_iff.mp fits.symm
    exact .accepted id trivial rfl

theorem parseAt_sound {document : Value} (parsed : parseAt depth document = .ok expression) :
    ¬ Malformed document ∧ expression.IsProper ∧
      (operandsOf document).mapM (parseAt (depth + 1)) = .ok expression.operands := by
  obtain ⟨_, parts, inner, assembled⟩ := parseAt_eq_ok.mp parsed
  have level := assemble_assembled (mapM_eq_ok.mp inner).length_eq
  rw [assembled] at level
  obtain ⟨wellFormed, proper, rfl⟩ := level
  exact ⟨wellFormed, proper, inner⟩

theorem parseAt_complete {document : Value} (shallow : depth ≤ maxDepth)
    (wellFormed : ¬ Malformed document)
    (inner : ∀ operand ∈ operandsOf document, ∃ part, parseAt (depth + 1) operand = .ok part) :
    ∃ expression, parseAt depth document = .ok expression := by
  obtain ⟨parts, inner⟩ := mapM_ok inner
  have level := assemble_assembled (mapM_eq_ok.mp inner).length_eq
  cases assembled : assemble document parts with
  | ok expression => exact ⟨expression, parseAt_eq_ok.mpr ⟨shallow, parts, inner, assembled⟩⟩
  | error reason =>
    rw [assembled] at level
    obtain _ | malformed := level
    exact absurd malformed wellFormed

end

section
variable {depth level : Nat} {document : Value} {expression : Expr}

theorem parsed_of_below {inner : Value} (under : Below operandsOf level document inner) {depth : Nat}
    {expression : Expr} (parsed : parseAt depth document = .ok expression) :
    ∃ part, parseAt (depth + level) inner = .ok part := by
  induction under generalizing depth expression with
  | root => exact ⟨expression, parsed⟩
  | part member _ ih =>
    obtain ⟨_, _, each⟩ := parseAt_sound parsed
    obtain ⟨part, _, parsed⟩ := mapM_result each member
    rw [← Nat.add_assoc, Nat.add_right_comm]
    exact ih parsed

/-- The parts of an accepted document's expression are the expressions of documents inside it. -/
theorem source_of_part {part : Expr} (under : Below Expr.operands level expression part) {depth : Nat}
    {document : Value} (parsed : parseAt depth document = .ok expression) :
    ∃ inner, parseAt (depth + level) inner = .ok part := by
  induction under generalizing depth document with
  | root => exact ⟨document, parsed⟩
  | part member _ ih =>
    obtain ⟨_, _, each⟩ := parseAt_sound parsed
    obtain ⟨inner, _, parsed⟩ := mapM_source each member
    rw [← Nat.add_assoc, Nat.add_right_comm]
    exact ih parsed

/-- Only the depth bounds the recursion, so the induction is on the levels that are left. -/
theorem parseAt_total (levels : Nat) {depth : Nat} (left : maxDepth < depth + levels) {document : Value}
    (fine : ∀ level inner, Below operandsOf level document inner →
      ¬ Malformed inner ∧ depth + level ≤ maxDepth) :
    ∃ expression, parseAt depth document = .ok expression := by
  induction levels generalizing depth document with
  | zero => exact absurd (fine 0 document (.root document)).2 (Nat.not_le.mpr left)
  | succ levels ih =>
    obtain ⟨wellFormed, shallow⟩ := fine 0 document (.root document)
    refine parseAt_complete shallow wellFormed fun operand member => ?_
    refine ih (by omega) fun level inner under => ?_
    obtain ⟨wellFormed, shallow⟩ := fine (level + 1) inner (.part member under)
    exact ⟨wellFormed, by omega⟩

theorem parses_iff : (∃ expression, parseAt depth document = .ok expression) ↔
    ∀ level inner, Below operandsOf level document inner →
      ¬ Malformed inner ∧ depth + level ≤ maxDepth := by
  constructor
  · rintro ⟨expression, parsed⟩ level inner under
    obtain ⟨part, parsed⟩ := parsed_of_below under parsed
    exact ⟨(parseAt_sound parsed).1, (parseAt_eq_ok.mp parsed).1⟩
  · exact parseAt_total (maxDepth + 1) (by omega)

end

section
variable {depth : Nat}

/-- The expression of an operator whose operands are read. -/
theorem ofDocument_operator {operator : String} {operand : Value} {parts : List Expr}
    {expression : Expr} (named : operator ≠ "")
    (each : (operandsFor operator operand).mapM (parseAt 1) = .ok parts)
    (built : build operator parts = .ok expression) :
    Expr.ofDocument (.object [(operator, operand)]) = expression := by
  have assembled : assemble (.object [(operator, operand)]) parts = .ok expression := by
    rw [assemble, if_neg named, built]
  have parsed : parseAt 0 (.object [(operator, operand)]) = .ok expression :=
    parseAt_eq_ok.mpr ⟨Nat.zero_le _, parts, each, assembled⟩
  rw [Expr.ofDocument, parsed]

theorem parseAt_text (shallow : depth ≤ maxDepth) (name : String) :
    parseAt depth (.text name) = .ok (.const (.text name)) :=
  parseAt_eq_ok.mpr ⟨shallow, [], rfl, rfl⟩

theorem parseAt_texts (shallow : depth + 1 ≤ maxDepth) (names : List String) :
    parseAt depth (.list (names.map .text)) = .ok (.array ((names.map .text).map .const)) := by
  refine parseAt_eq_ok.mpr ⟨Nat.le_of_succ_le shallow, _, mapM_of_ok ?_, rfl⟩
  rintro _ member
  obtain ⟨name, _, rfl⟩ := List.mem_map.mp member
  exact parseAt_text shallow name

end

/-- A document that is no condition. -/
def Refused (document : Value) : Prop := ∃ reason, Expr.ofDocument document = .invalid reason

theorem refused_iff_error {document : Value} :
    Refused document ↔ ¬ ∃ expression, parseAt 0 document = .ok expression := by
  unfold Refused Expr.ofDocument
  cases parsed : parseAt 0 document with
  | error reason => simp
  | ok expression =>
    have proper := (parseAt_sound parsed).2.1
    simp only [Except.ok.injEq, exists_eq', not_true_eq_false, iff_false]
    rintro ⟨reason, rfl⟩
    exact proper

theorem refused_iff {document : Value} : Refused document ↔
    ∃ level inner, Below operandsOf level document inner ∧ (Malformed inner ∨ maxDepth < level) := by
  rw [refused_iff_error, parses_iff]
  simp only [Nat.zero_add, not_forall, not_and_or, not_not, Nat.not_le, exists_prop]

theorem Refused.of_below {level : Nat} {document inner : Value}
    (under : Below operandsOf level document inner) (refused : Refused inner) : Refused document := by
  obtain ⟨lower, innermost, deeper, cause⟩ := refused_iff.mp refused
  exact refused_iff.mpr ⟨level + lower, innermost, under.trans deeper, cause.imp_right (by omega)⟩

theorem isMet_of_refused {document : Value} (refused : Refused document) (predicates : Predicates)
    (context : Context) : isMet predicates context (.ofLogic document) =
      if document.isAbridgeable 6 then .ok false else .error .badValue := by
  obtain ⟨reason, invalid⟩ := refused
  simp [isMet, ConditionDef.ofLogic, invalid, evaluate, problem]

/-- Documents are conditions as a whole or not at all. What is none is never met: in a state that
can be looked at it is answered with no, unless a number in it is too long for the report. -/
theorem ofDocument_whole (document : Value) :
    (Refused document ↔ ∃ level inner, Below operandsOf level document inner ∧
      (Malformed inner ∨ 64 < level)) ∧
    (Refused document ∨ ∀ level part, Below Expr.operands level (.ofDocument document) part →
      part.IsProper ∧ level < 65) ∧
    ∀ level inner, Below operandsOf level document inner → Refused inner →
      Refused document ∧ ∀ predicates state,
        (∀ met, passes predicates (.ofLogic document) state = .ok met ↔ met = false ∧
          (∃ context, Context.ofState state = .ok context) ∧ document.isAbridgeable 6 = true) ∧
        (∀ fault, passes predicates (.ofLogic document) state = .error fault ↔
          Context.ofState state = .error fault ∨ fault = .badValue ∧
            (∃ context, Context.ofState state = .ok context) ∧ document.isAbridgeable 6 = false) ∧
        ∀ context, Context.ofState state = .ok context → document.isWritable = true →
          passes predicates (.ofLogic document) state = .ok false := by
  refine ⟨refused_iff, ?_, fun level inner under refused => ?_⟩
  · cases parsed : parseAt 0 document with
    | error reason => exact .inl ⟨reason, by rw [Expr.ofDocument, parsed]⟩
    | ok expression =>
      have same : Expr.ofDocument document = expression := by rw [Expr.ofDocument, parsed]
      refine .inr fun level part under => ?_
      obtain ⟨inner, parsed⟩ := source_of_part (same ▸ under) parsed
      have shallow := (parseAt_eq_ok.mp parsed).1
      rw [Nat.zero_add] at shallow
      exact ⟨(parseAt_sound parsed).2.1, Nat.lt_succ_of_le shallow⟩
  · have whole := Refused.of_below under refused
    refine ⟨whole, fun predicates state => ?_⟩
    -- A refused document has no expression to evaluate, so all that counts is the view and the report.
    have passing : passes predicates (.ofLogic document) state = (do
        let _ ← Context.ofState state
        if document.isAbridgeable 6 then .ok false else .error .badValue) := by
      simp only [passes, isMet_of_refused whole]
    rw [passing]
    refine ⟨fun met => ?_, fun fault => ?_, fun context seen writable => ?_⟩
    · rw [bind_eq_ok, exists_and_right]
      cases document.isAbridgeable 6 <;> simp [eq_comm, and_comm]
    · rw [bind_eq_error, exists_and_right]
      cases document.isAbridgeable 6 <;> simp [eq_comm, and_comm]
    · rw [seen, Value.isAbridgeable_of_isWritable writable 6]
      rfl

/-- A number past all messages, beside an operand with two operators. -/
def longDocument : Value :=
  .object [("and", .list [.int (10 ^ 5000), .object [("a", .int 1), ("b", .int 2)]])]

theorem ofDocument_whole_longDocument : Refused longDocument ∧
    ∀ predicates state met, passes predicates (.ofLogic longDocument) state ≠ .ok met := by
  have refused : Refused (.object [("a", .int 1), ("b", .int 2)]) := ⟨_, rfl⟩
  have under : Below operandsOf 1 longDocument (.object [("a", .int 1), ("b", .int 2)]) :=
    .part (.tail _ (.head _)) (.root _)
  obtain ⟨whole, answers⟩ := (ofDocument_whole longDocument).2.2 1 _ under refused
  refine ⟨whole, fun predicates state met passed => ?_⟩
  have short := ((answers predicates state).1 met).mp passed
  have long : longDocument.isAbridgeable 6 = false := by decide +kernel
  cases long.symm.trans short.2.2

end Gamebook.Condition
