import Gamebook.Proofs.Condition.Lists
import Gamebook.Proofs.Condition.Predicates
import Gamebook.Proofs.Value.Number

/-!
Predicates and paths tell the same of a state. Where tables hold finite numbers, what a predicate
counts is the entry to which a path leads, and what it affirms is what can be said with paths.
-/
namespace Gamebook

namespace Number
variable {number : Number}

theorem eq_self (settled : number.Settled) : number.eq number = true := by
  cases number with
  | int value => simp [eq, compare?]
  | real x =>
    cases x with
    | finite negative units fits => simp [eq, compare?, Double.compare?]
    | _ => cases settled

theorem eq_of_isZero (zero : number.isZero = true) : (Number.int 0).eq number = true := by
  cases number with
  | int value => simp_all [isZero, eq, compare?]
  | real x =>
    cases x with
    | finite negative units fits =>
      obtain rfl : units = 0 := by simpa [isZero, Double.isZero] using zero
      rw [eq, decide_eq_true_eq]
      change some (compare (0 * (Double.one : Int)) (Double.withSign negative 0)) = some .eq
      rw [Int.zero_mul]
      cases negative <;> rfl
    | _ => cases zero

theorem not_lt_of_eq {other : Number} (same : number.eq other = true) : number.lt other = false := by
  rw [eq, decide_eq_true_eq] at same
  simp [lt, same]

theorem isFilled_toValue (number : Number) : number.toValue.isFilled = !number.isZero := by
  cases number <;> rfl

end Number

namespace Condition
variable {context : Context} {dict : Dict}

/-- Whether the entry under a name is above zero. -/
def isHeld (dict : Dict) (name : String) : Bool := ((dict.get? (.text name)).map isPositive).getD false

/-- A counted entry is the entry itself, but for a zero, which is counted as a whole number. -/
theorem amount_eq_ok (finite : ∀ entry ∈ dict, entry.2.IsFinite) (name : String) :
    ∃ count held : Number, amount dict (.text name) = .ok count.toValue ∧
      (dict.get? (.text name)).getD (.int 0) = held.toValue ∧ count.eq held = true ∧
      isHeld dict name = (Number.int 0).lt count := by
  have found : amount dict (.text name) = .ok (((dict.get? (.text name)).map fun value =>
      if value.isFilled then value else .int 0).getD (.int 0)) := by
    have there : entry? dict (.text name) = .ok (dict.get? (.text name)) := rfl
    rw [amount, there]
    cases dict.get? (.text name) <;> rfl
  rw [found, isHeld]
  cases entry : dict.get? (.text name) with
  | none => exact ⟨.int 0, .int 0, rfl, rfl, rfl, rfl⟩
  | some value =>
    obtain ⟨pair, member, _, rfl⟩ := Assoc.mem_of_get? entry
    obtain ⟨number, same, settled⟩ := finite pair member
    have positive : isPositive pair.2 = (Number.int 0).lt number := by
      rw [same]
      cases number <;> rfl
    simp only [Option.getD_some, Option.map_some, positive]
    rw [same, number.isFilled_toValue]
    cases zero : number.isZero with
    | true =>
      have nothing := Number.eq_of_isZero zero
      exact ⟨.int 0, number, rfl, rfl, nothing, Number.not_lt_of_eq nothing⟩
    | false => exact ⟨number, number, rfl, rfl, Number.eq_self settled, rfl⟩

theorem holdsItem_text (context : Context) (name : String) :
    holdsItem context (.text name) = .ok (isHeld context.inventory name) := rfl

theorem holdsItems_texts (context : Context) (names : List String) :
    holdsItems context (names.map .text) = .ok (names.all (isHeld context.inventory)) := by
  induction names with
  | nil => rfl
  | cons name names ih =>
    rw [List.map_cons, holdsItems, holdsItem_text, List.all_cons]
    cases isHeld context.inventory name with
    | true => exact ih
    | false => rfl

theorem askedKeys_texts (names : List String) : askedKeys (names.map .text) = names.map .text := by
  rcases names with _ | ⟨name, _ | _⟩ <;> rfl

theorem askedKeys_list (keys : List Value) : askedKeys [.list keys] = keys := rfl

section
variable (context : Context) (name : String)

/-- The value of a document in a context, with the predicates that every game has. -/
def valueOf (document : Value) : Outcome Value :=
  evaluate context defaultPredicates (.ofDocument document)

theorem valueOf_entry (undotted : '.' ∉ name.toList) {table : String} {dict : Dict}
    (plain : '.' ∉ table.toList)
    (leads : stepInto context.root table.toList = .ok (some (.view dict))) :
    valueOf context (.object [("var", .list [.text (table ++ "." ++ name), .int 0])]) =
      .ok ((dict.get? (.text name)).getD (.int 0)) := by
  change (lookup context (.text (table ++ "." ++ name)) >>= _) = _
  rw [lookup_entry plain leads undotted]
  cases dict.get? (.text name) <;> rfl

theorem valueOf_visited :
    valueOf context (.object [("in", .list [.text name, .object [("var", .text "visitedNodes")]])]) =
      .ok (.bool ((Value.text name).isAmong context.visitedNodes)) := by
  change (evaluate context defaultPredicates (.lookup (.const (.text "visitedNodes")) none) >>= _) = _
  rw [evaluate_visitedNodes]
  rfl

theorem valueOf_hasItems {operand : Value} {parts : List Expr} {operands : List Value}
    (read : (operandsFor "hasItems" operand).mapM (parseAt 1) = .ok parts)
    (evaluated : evaluateItems context defaultPredicates parts = .ok operands)
    {names : List String} (asked : askedKeys operands = names.map .text) :
    valueOf context (.object [("hasItems", operand)]) =
      .ok (.bool (names.all (isHeld context.inventory))) := by
  rw [valueOf, ofDocument_operator (by decide) read rfl]
  change (evaluateItems context defaultPredicates parts >>= fun operands =>
    holdsItems context (askedKeys operands) >>= fun answer => .ok (Value.bool answer)) = _
  rw [evaluated]
  change (holdsItems context (askedKeys operands) >>= fun answer => .ok (Value.bool answer)) = _
  rw [asked, holdsItems_texts]
  rfl

/-- A predicate that counts in a table, and the path to the entry that it counts. -/
theorem valueOf_counted (table predicate : String) {dict : Dict} (plain : '.' ∉ table.toList)
    (leads : stepInto context.root table.toList = .ok (some (.view dict)))
    (finite : ∀ entry ∈ dict, entry.2.IsFinite) (undotted : '.' ∉ name.toList)
    (counts : valueOf context (.object [(predicate, .text name)]) = amount dict (.text name)) :
    ∃ count held : Number, valueOf context (.object [(predicate, .text name)]) = .ok count.toValue ∧
      valueOf context (.object [("var", .list [.text (table ++ "." ++ name), .int 0])]) =
        .ok held.toValue ∧ count.eq held = true ∧ isHeld dict name = (Number.int 0).lt count := by
  obtain ⟨count, held, counted, there, same, positive⟩ := amount_eq_ok finite name
  refine ⟨count, held, counts.trans counted, ?_, same, positive⟩
  rw [valueOf_entry context name undotted plain leads, there]

/-- Whether the names stand in a list of their own or not, all of them are asked for. -/
theorem valueOf_allHeld (names : List String) :
    valueOf context (.object [("hasItems", .list [.list (names.map .text)])]) =
      .ok (.bool (names.all (isHeld context.inventory))) ∧
    valueOf context (.object [("hasItems", .list (names.map .text))]) =
      .ok (.bool (names.all (isHeld context.inventory))) := by
  have consts : evaluateItems context defaultPredicates ((names.map .text).map .const) =
      .ok (names.map .text) := evaluateItems_consts _
  constructor
  · have written : parseAt 1 (.list (names.map .text)) = .ok (.array ((names.map .text).map .const)) :=
      parseAt_texts (by decide) names
    have read : (operandsFor "hasItems" (.list [.list (names.map .text)])).mapM (parseAt 1) =
        .ok [.array ((names.map .text).map .const)] := mapM_eq_ok.mpr (.cons written .nil)
    refine valueOf_hasItems context read ?_ (askedKeys_list _)
    rw [evaluateItems, evaluate, consts]
    rfl
  · have read : (operandsFor "hasItems" (.list (names.map .text))).mapM (parseAt 1) =
        .ok ((names.map .text).map .const) := by
      refine mapM_of_ok fun operand member => ?_
      obtain ⟨name, _, rfl⟩ := List.mem_map.mp member
      exact parseAt_text (by decide) name
    exact valueOf_hasItems context read consts (askedKeys_texts names)

end

/-- In every state whose quantities and balances are finite numbers, what predicates answer is what
paths lead to: counts are the entries themselves, to have an item is to have more than none of it,
to have several is to have each, and the nodes and status effects asked for are those of the
state. -/
theorem notations_agree {state : GameState} {context : Context}
    (seen : Context.ofState state = .ok context)
    (carried : ∀ table, state.inventory.dict = .ok table → ∀ entry ∈ table, entry.2.IsFinite)
    (owned : ∀ table, state.wallets.dict = .ok table → ∀ entry ∈ table, entry.2.IsFinite)
    (key : String) (undotted : '.' ∉ key.toList) (keys : List String) :
    let value := valueOf context
    let ask (predicate : String) (operand : Value) := value (.object [(predicate, operand)])
    let entry (path : String) := value (.object [("var", .list [.text path, .int 0])])
    (∃ count held : Number, ask "itemCount" (.text key) = .ok count.toValue ∧
      entry ("inventory." ++ key) = .ok held.toValue ∧ count.eq held = true ∧
      ask "hasItem" (.text key) = .ok (.bool ((Number.int 0).lt count))) ∧
    (∃ balance held : Number, ask "walletBalance" (.text key) = .ok balance.toValue ∧
      entry ("wallets." ++ key) = .ok held.toValue ∧ balance.eq held = true) ∧
    (∃ answer, ask "hasItems" (.list [.list (keys.map .text)]) = .ok (.bool answer) ∧
      ask "hasItems" (.list (keys.map .text)) = .ok (.bool answer) ∧
      (answer = true ↔ ∀ name ∈ keys, ask "hasItem" (.text name) = .ok (.bool true))) ∧
    (∃ answer, ask "hasVisitedNode" (.text key) = .ok (.bool answer) ∧
      value (.object [("in", .list [.text key, .object [("var", .text "visitedNodes")]])]) =
        .ok (.bool answer)) ∧
    ∃ effects answer, state.statusEffects.entries = .ok effects ∧
      ask "hasStatusEffect" (.text key) = .ok (.bool answer) ∧
      (answer = true ↔ ∃ effect ∈ effects, effect.type = .text key) := by
  intro value ask entry
  have views := Context.ofState_eq_ok_iff.mp seen
  have held (name : String) :
      ask "hasItem" (.text name) = .ok (.bool (isHeld context.inventory name)) := rfl
  refine ⟨?items, ?balances, ?several, ?nodes, context.statusEffects, _, views.effects, rfl, ?effects⟩
  case items =>
    obtain ⟨count, number, counted, there, same, positive⟩ := valueOf_counted context key "inventory"
      "itemCount" (by decide) (stepInto_record _ _) (carried _ views.inventory) undotted rfl
    exact ⟨count, number, counted, there, same, by rw [held, positive]⟩
  case balances =>
    obtain ⟨balance, number, counted, there, same, _⟩ := valueOf_counted context key "wallets"
      "walletBalance" (by decide) (stepInto_record _ _) (owned _ views.wallets) undotted rfl
    exact ⟨balance, number, counted, there, same⟩
  case several =>
    obtain ⟨listed, flat⟩ := valueOf_allHeld context keys
    refine ⟨_, listed, flat, List.all_eq_true.trans (forall₂_congr fun name _ => ?_)⟩
    rw [held]
    simp
  case nodes =>
    refine ⟨_, rfl, ?_⟩
    refine (valueOf_visited context key).trans ?_
    congr 2
    rw [Bool.eq_iff_iff, Value.text_isAmong_iff, Context.presence_contains views.visited]
  case effects =>
    rw [Context.presence_contains views.types, List.mem_map]

theorem notations_agree_rope :
    let state := { GameState.create ⟨⟨2024, 5, 1⟩, ⟨8, 0, 0, 0⟩, some 0⟩ (.text "sailor")
      (.text "harbour") (.text "pier") (.text "first") .null with
      inventory := .known [(.text "rope", .int 2)] }
    ∃ context, Context.ofState state = .ok context ∧
      (∀ table, state.inventory.dict = .ok table → ∀ entry ∈ table, entry.2.IsFinite) ∧
      (∀ table, state.wallets.dict = .ok table → ∀ entry ∈ table, entry.2.IsFinite) ∧
      '.' ∉ "rope".toList ∧
      ∃ count held : Number,
        valueOf context (.object [("itemCount", .text "rope")]) = .ok count.toValue ∧
        valueOf context (.object [("var", .list [.text "inventory.rope", .int 0])]) =
          .ok held.toValue ∧ count.eq held = true ∧
        valueOf context (.object [("hasItem", .text "rope")]) =
          .ok (.bool ((Number.int 0).lt count)) := by
  intro state
  obtain ⟨context, seen⟩ : ∃ context, Context.ofState state = .ok context := ⟨_, rfl⟩
  have carried : ∀ table, state.inventory.dict = .ok table → ∀ entry ∈ table, entry.2.IsFinite := by
    rintro _ ⟨⟩ _ (_ | ⟨_, ⟨⟩⟩)
    exact ⟨.int 2, rfl, trivial⟩
  have owned : ∀ table, state.wallets.dict = .ok table → ∀ entry ∈ table, entry.2.IsFinite := by
    rintro _ ⟨⟩ _ ⟨⟩
  have undotted : '.' ∉ "rope".toList := by decide
  exact ⟨context, seen, carried, owned, undotted,
    (notations_agree seen carried owned "rope" undotted ["rope", "lamp"]).1⟩

end Condition
end Gamebook
