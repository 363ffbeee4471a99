import Gamebook.Proofs.Condition.Calculating
import Gamebook.Proofs.Condition.Predicates
import Gamebook.Proofs.Text.Numerals

/-!
What stops a condition from asking. A path is stopped where it asks a list for an item by digits that
make no number, and a search or a predicate where it asks a table for what is no key.
-/
namespace Gamebook.Condition

/-- Digits that make no number: one of them is not decimal, or they are too many. -/
def IsStray (part : List Char) : Prop :=
  Text.allDigits part = true ∧
    ((∃ c ∈ part, Text.isDecimal c = false) ∨ Text.maxDigits < part.length)

/-- A path that cannot be followed: it cannot be written down, or it leads to a list and asks there
for an item by digits that make no number. -/
inductive Astray (root : Value) : Value → Prop
  | unwritable {path : Value} (long : path.isWritable = false) : Astray root path
  | item {text : String} {before after : List (List Char)} {part : List Char} {list : Value}
      (parts : Text.splitAt '.' text.toList = before ++ part :: after)
      (leads : follow root before = .ok (some list)) (listed : list.items?.isSome = true)
      (stray : IsStray part) : Astray root (.text text)

section
variable {context : Context} {value path : Value} {fault : Fault}

theorem stepInto_eq_error {part : List Char} : stepInto value part = .error fault ↔
    fault = .badValue ∧ value.items?.isSome = true ∧ IsStray part := by
  have listed (items : List Value) :
      itemAt items part = .error fault ↔ fault = .badValue ∧ IsStray part := by
    unfold itemAt IsStray
    by_cases digits : Text.allDigits part = true
    · rw [if_pos digits, ← Text.readInt?_eq_none digits, and_iff_right digits]
      cases Text.readInt? part with
      | none => simp [eq_comm]
      | some index => exact iff_of_false (by rintro ⟨⟩) (by rintro ⟨_, ⟨⟩⟩)
    · rw [if_neg digits]
      exact iff_of_false (by rintro ⟨⟩) fun stray => absurd stray.2.1 digits
  cases value <;> simp [stepInto, Value.items?, listed]

theorem follow_eq_error {parts : List (List Char)} : follow value parts = .error fault ↔
    fault = .badValue ∧ ∃ before part after list, parts = before ++ part :: after ∧
      follow value before = .ok (some list) ∧ list.items?.isSome = true ∧ IsStray part := by
  induction parts generalizing value with
  | nil =>
    refine iff_of_false (by rintro ⟨⟩) ?_
    rintro ⟨_, before, part, after, _, none, _⟩
    cases before <;> cases none
  | cons first parts ih =>
    rw [follow, bind_eq_error]
    constructor
    · rintro (here | ⟨next, stepped, later⟩)
      · obtain ⟨rfl, listed, stray⟩ := stepInto_eq_error.mp here
        exact ⟨rfl, [], first, parts, value, rfl, rfl, listed, stray⟩
      · cases next with
        | none => cases later
        | some next =>
          obtain ⟨rfl, before, part, after, list, rfl, leads, listed, stray⟩ := ih.mp later
          refine ⟨rfl, first :: before, part, after, list, rfl, ?_, listed, stray⟩
          rw [follow]
          exact bind_eq_ok.mpr ⟨some next, stepped, leads⟩
    · rintro ⟨rfl, before, part, after, list, same, leads, listed, stray⟩
      cases before with
      | nil =>
        cases same
        cases leads
        exact .inl (stepInto_eq_error.mpr ⟨rfl, listed, stray⟩)
      | cons other before =>
        cases same
        rw [follow] at leads
        obtain ⟨next, stepped, leads⟩ := bind_eq_ok.mp leads
        cases next with
        | none => cases leads
        | some next =>
          refine .inr ⟨some next, stepped, ih.mpr ?_⟩
          exact ⟨rfl, before, part, after, list, rfl, leads, listed, stray⟩

theorem pathParts_eq_fault : pathParts path = .error (.fault fault) ↔
    fault = .badValue ∧ path.isWritable = false := by
  have unwritten {outcome : Outcome (Option (List (List Char)))} (written : Bool)
      (fine : outcome ≠ .error (.fault fault)) :
      (if written = true then outcome else .error (.fault .badValue)) = .error (.fault fault) ↔
        fault = .badValue ∧ written = false := by
    cases written <;> simp [fine, eq_comm]
  unfold pathParts
  split
  · exact iff_of_false (by rintro ⟨⟩) (by rintro ⟨_, ⟨⟩⟩)
  · exact iff_of_false (by rintro ⟨⟩) (by rintro ⟨_, ⟨⟩⟩)
  · exact unwritten _ (by rintro ⟨⟩)
  · exact unwritten _ (by rintro ⟨⟩)

/-- Only tables hang below the root, so a path of one part asks no list for an item. -/
theorem follow_root_single (part : List Char) : follow context.root [part] ≠ .error fault := by
  intro failed
  obtain ⟨_, before, other, after, list, same, leads, listed, _⟩ := follow_eq_error.mp failed
  cases before with
  | nil =>
    cases leads
    cases listed
  | cons first before => cases before <;> cases same

theorem lookup_eq_fault : lookup context path = .error (.fault fault) ↔
    fault = .badValue ∧ Astray context.root path := by
  rw [lookup, bind_eq_error, pathParts_eq_fault]
  constructor
  · rintro (⟨rfl, long⟩ | ⟨parts, made, failed⟩)
    · exact ⟨rfl, .unwritable long⟩
    · cases parts with
      | none => cases failed
      | some parts =>
        have unfollowed : follow context.root parts = .error fault := lift_eq_fault.mp failed
        unfold pathParts at made
        split at made
        · cases made
        · split at made
          · cases made
          · obtain rfl := Option.some.inj (Except.ok.inj made)
            obtain ⟨rfl, before, part, after, list, parts, leads, listed, stray⟩ :=
              follow_eq_error.mp unfollowed
            exact ⟨rfl, .item parts leads listed stray⟩
        · split at made
          · obtain rfl := Option.some.inj (Except.ok.inj made)
            exact absurd unfollowed (follow_root_single _)
          · cases made
        · split at made <;> cases made
  · rintro ⟨rfl, long | ⟨parts, leads, listed, stray⟩⟩
    · exact .inl ⟨rfl, long⟩
    · rename_i text before after part list
      have unfollowed : follow context.root (Text.splitAt '.' text.toList) = .error .badValue :=
        follow_eq_error.mpr ⟨rfl, before, part, after, list, parts, leads, listed, stray⟩
      have filled : text ≠ "" := by
        rintro rfl
        exact follow_root_single _ unfollowed
      refine .inr ⟨some (Text.splitAt '.' text.toList), ?_, lift_eq_fault.mpr unfollowed⟩
      rw [pathParts, if_neg filled]

theorem isMissing_eq_fault : isMissing context path = .error (.fault fault) ↔
    fault = .badValue ∧ Astray context.root path := by
  rw [isMissing, bind_eq_error, lookup_eq_fault]
  refine or_iff_left ?_
  rintro ⟨found, _, failed⟩
  split at failed <;> cases failed

theorem isKeyOf_eq_error {key : Value} {dict : Dict} :
    key.isKeyOf dict = .error fault ↔ fault = .wrongKind ∧ key.isKey = false := by
  unfold Value.isKeyOf
  cases key.isKey <;> simp [eq_comm]

theorem isMember_eq_fault {needle haystack : Value} :
    isMember needle haystack = .error (.fault fault) ↔
      fault = .wrongKind ∧ haystack.entries?.isSome = true ∧ needle.isKey = false := by
  have inTable {haystack : Value} {entries : Dict}
      (searched : isMember needle haystack = Fault.lift (haystack.holds needle))
      (table : haystack.entries? = some entries) (held : haystack.holds needle = needle.isKeyOf entries) :
      isMember needle haystack = .error (.fault fault) ↔
        fault = .wrongKind ∧ haystack.entries?.isSome = true ∧ needle.isKey = false := by
    rw [searched, held, lift_eq_fault, isKeyOf_eq_error, table]
    simp
  cases haystack with
  | object fields => exact inTable rfl rfl rfl
  | view entries => exact inTable rfl rfl rfl
  | text text => cases needle <;> exact iff_of_false (by rintro ⟨⟩) (by rintro ⟨_, ⟨⟩, _⟩)
  | _ => exact iff_of_false (by rintro ⟨⟩) (by rintro ⟨_, ⟨⟩, _⟩)

theorem entryUnder_eq_fault {dict : Dict} {key : Value} :
    entry? dict key = .error (.fault fault) ↔ fault = .wrongKind ∧ key.isKey = false := by
  unfold entry?
  cases key.isKey <;> simp [eq_comm]

theorem holdsItem_eq_fault {key : Value} : holdsItem context key = .error (.fault fault) ↔
    fault = .wrongKind ∧ key.isKey = false :=
  bind_pure_eq_error.trans entryUnder_eq_fault

theorem amount_eq_fault {dict : Dict} {key : Value} : amount dict key = .error (.fault fault) ↔
    fault = .wrongKind ∧ key.isKey = false := by
  refine bind_eq_error.trans ((or_iff_left ?_).trans entryUnder_eq_fault)
  rintro ⟨found, _, failed⟩
  split at failed <;> cases failed

theorem holdsItems_eq_fault {keys : List Value} : holdsItems context keys = .error (.fault fault) ↔
    fault = .wrongKind ∧ ∃ before key after, keys = before ++ key :: after ∧
      (∀ earlier ∈ before, holdsItem context earlier = .ok true) ∧ key.isKey = false := by
  induction keys with
  | nil =>
    refine iff_of_false (by rintro ⟨⟩) ?_
    rintro ⟨_, before, key, after, none, _⟩
    cases before <;> cases none
  | cons first keys ih =>
    rw [holdsItems, bind_eq_error, holdsItem_eq_fault]
    constructor
    · rintro (⟨rfl, unfit⟩ | ⟨held, here, later⟩)
      · exact ⟨rfl, [], first, keys, rfl, List.forall_mem_nil _, unfit⟩
      · cases held with
        | false => cases later
        | true =>
          obtain ⟨rfl, before, key, after, rfl, earlier, unfit⟩ := ih.mp later
          exact ⟨rfl, first :: before, key, after, rfl,
            List.forall_mem_cons.mpr ⟨here, earlier⟩, unfit⟩
    · rintro ⟨rfl, before, key, after, same, earlier, unfit⟩
      cases before with
      | nil =>
        cases same
        exact .inl ⟨rfl, unfit⟩
      | cons other before =>
        cases same
        obtain ⟨here, earlier⟩ := List.forall_mem_cons.mp earlier
        exact .inr ⟨true, here, ih.mpr ⟨rfl, before, key, after, rfl, earlier, unfit⟩⟩

end

/-- The keys that a predicate looks up: its first operand, or, of many items, all up to the first
that is not held. -/
inductive Asks (context : Context) : String → List Value → Value → Prop
  | first {name : String} {key : Value} {rest : List Value} (single : name ≠ "hasItems") :
      Asks context name (key :: rest) key
  | each {operands before after : List Value} {key : Value}
      (asked : askedKeys operands = before ++ key :: after)
      (held : ∀ earlier ∈ before, holdsItem context earlier = .ok true) :
      Asks context "hasItems" operands key

section
variable {context : Context} {fault : Fault} {name : String} {operands : List Value}

theorem asks_first_iff (single : name ≠ "hasItems") {key : Value} :
    Asks context name operands key ↔ ∃ rest, operands = key :: rest := by
  constructor
  · rintro (_ | _)
    · exact ⟨_, rfl⟩
    · exact absurd rfl single
  · rintro ⟨rest, rfl⟩
    exact .first single

theorem argument_eq_fault {answer : Value → Outcome Value} (single : name ≠ "hasItems")
    (only : ∀ key, answer key = .error (.fault fault) ↔ fault = .wrongKind ∧ key.isKey = false) :
    (argument name operands >>= answer) = .error (.fault fault) ↔
      fault = .wrongKind ∧ ∃ key, Asks context name operands key ∧ key.isKey = false := by
  simp only [asks_first_iff single]
  cases operands with
  | nil => exact iff_of_false (by rintro ⟨⟩) (by rintro ⟨_, _, ⟨_, ⟨⟩⟩, _⟩)
  | cons key rest =>
    refine (only key).trans (and_congr_right fun _ => ?_)
    simp

theorem predicate_eq_fault {predicate : Predicate}
    (known : defaultPredicates.get? name = some predicate) :
    predicate context operands = .error (.fault fault) ↔
      fault = .wrongKind ∧ ∃ key, Asks context name operands key ∧ key.isKey = false := by
  obtain ⟨entry, member, same, rfl⟩ := Assoc.mem_of_get? known
  obtain rfl : entry.1 = name := beq_iff_eq.mp same
  simp only [defaultPredicates, List.mem_cons, List.not_mem_nil, or_false] at member
  rcases member with rfl | rfl | rfl | rfl | rfl | rfl
  · exact argument_eq_fault (by decide) fun _ => bind_pure_eq_error.trans holdsItem_eq_fault
  · refine bind_pure_eq_error.trans (holdsItems_eq_fault.trans (and_congr_right fun _ => ?_))
    constructor
    · rintro ⟨before, key, after, asked, held, unfit⟩
      exact ⟨key, .each asked held, unfit⟩
    · rintro ⟨key, single | ⟨asked, held⟩, unfit⟩
      · exact absurd rfl single
      · exact ⟨_, key, _, asked, held, unfit⟩
  · exact argument_eq_fault (by decide) fun _ => amount_eq_fault
  · exact argument_eq_fault (by decide) fun _ =>
      bind_pure_eq_error.trans (lift_eq_fault.trans isKeyOf_eq_error)
  · exact argument_eq_fault (by decide) fun _ =>
      bind_pure_eq_error.trans (lift_eq_fault.trans isKeyOf_eq_error)
  · exact argument_eq_fault (by decide) fun _ => amount_eq_fault

end
end Gamebook.Condition
