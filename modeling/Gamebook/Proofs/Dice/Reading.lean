import Gamebook.Dice.Formula
import Gamebook.Proofs.Outcome
import Gamebook.Proofs.Text.Numerals

/-!
Which texts are formulas, and what they are read as. A text of the right shape is refused in a way of
its own if one of its numbers has too many digits.
-/
namespace Gamebook.DiceFormula

/-- What is added to the dice: nothing, or a sign and digits. -/
inductive IsAddition : List Char → Prop
  | nothing : IsAddition []
  | signed {sign : Char} {digits : List Char} : sign = '+' ∨ sign = '-' → Text.IsNumeral digits →
      IsAddition (sign :: digits)

/-- A text without blanks is a formula: digits, a `d` in either case, digits, and an addition. -/
inductive Spells : List Char → List Char → List Char → List Char → Prop
  | intro {count sides addition : List Char} {letter : Char} : Text.IsNumeral count →
      letter = 'd' ∨ letter = 'D' → Text.IsNumeral sides → IsAddition addition →
      Spells (count ++ letter :: (sides ++ addition)) count sides addition

variable {text count sides addition : List Char}

theorem isModifierText_iff : isModifierText addition = true ↔ IsAddition addition := by
  cases addition with
  | nil => exact ⟨fun _ => .nothing, fun _ => rfl⟩
  | cons sign digits =>
    simp only [isModifierText, Bool.and_eq_true, Bool.or_eq_true, decide_eq_true_eq,
      Bool.not_eq_true', List.isEmpty_eq_false_iff, List.all_eq_true]
    constructor
    · rintro ⟨⟨signed, filled⟩, decimal⟩
      exact .signed signed ⟨filled, decimal⟩
    · rintro (_ | ⟨signed, numeral⟩)
      exact ⟨⟨signed, numeral.filled⟩, numeral.decimal⟩

theorem takeWhile_numeral (numeral : Text.IsNumeral count) {rest : List Char}
    (ends : ∀ c ∈ rest.head?, Text.isDecimal c = false) :
    (count ++ rest).takeWhile Text.isDecimal = count ∧
      (count ++ rest).dropWhile Text.isDecimal = rest := by
  rw [List.takeWhile_append_of_pos numeral.decimal, List.dropWhile_append_of_pos numeral.decimal]
  cases rest with
  | nil => simp
  | cons c rest =>
    have other : ¬Text.isDecimal c = true := by simp [ends c rfl]
    rw [List.takeWhile_cons_of_neg other, List.dropWhile_cons_of_neg other, List.append_nil]
    exact ⟨rfl, rfl⟩

theorem IsAddition.ends (addition : IsAddition text) :
    ∀ c ∈ text.head?, Text.isDecimal c = false := by
  intro c first
  cases addition with
  | nothing => cases first
  | signed signed _ =>
    cases first
    rcases signed with rfl | rfl <;> decide

theorem isNumeral_takeWhile (filled : (text.takeWhile Text.isDecimal).isEmpty = false) :
    Text.IsNumeral (text.takeWhile Text.isDecimal) where
  filled := by simpa using filled
  decimal := fun _ member => List.all_eq_true.mp List.all_takeWhile _ member

theorem split?_eq_some : split? text = some (count, sides, addition) ↔
    Spells text count sides addition := by
  constructor
  · intro split
    unfold split? at split
    dsimp only at split
    split at split
    · rename_i letter rest behind
      split at split
      · rename_i shaped
        simp only [Bool.and_eq_true, Bool.or_eq_true, decide_eq_true_eq, Bool.not_eq_true'] at shaped
        obtain ⟨⟨⟨counted, marked⟩, sided⟩, added⟩ := shaped
        cases split
        have spelled := Spells.intro (isNumeral_takeWhile counted) marked (isNumeral_takeWhile sided)
          (isModifierText_iff.mp added)
        rwa [List.takeWhile_append_dropWhile, ← behind, List.takeWhile_append_dropWhile] at spelled
      · cases split
    · cases split
  · rintro ⟨counted, marked, sided, added⟩
    rename_i letter
    have letterEnds : ∀ c ∈ (letter :: (sides ++ addition)).head?, Text.isDecimal c = false := by
      rintro c ⟨⟩
      rcases marked with rfl | rfl <;> decide
    obtain ⟨first, behind⟩ := takeWhile_numeral counted letterEnds
    obtain ⟨second, last⟩ := takeWhile_numeral sided added.ends
    unfold split?
    rw [first, behind]
    dsimp only
    rw [second, last]
    simp [counted.filled, marked, sided.filled, isModifierText_iff.mpr added]

def addedBy : List Char → Int
  | [] => 0
  | sign :: digits => Text.applySign (sign = '-') (Text.numberOf digits)

theorem readNumber_long (numeral : Text.IsNumeral count) (long : Text.maxDigits < count.length) :
    readNumber count = .error (.fault .badValue) := by
  rw [readNumber, numeral.readInt?, if_pos long]

theorem readNumber_short (numeral : Text.IsNumeral count) (short : ¬Text.maxDigits < count.length) :
    readNumber count = .ok (Text.numberOf count : Int) := by
  rw [readNumber, numeral.readInt?, if_neg short]

theorem readModifier_signed {sign : Char} (signed : sign = '+' ∨ sign = '-')
    (numeral : Text.IsNumeral count) : readModifier (sign :: count) =
      if Text.maxDigits < count.length then .error (.fault .badValue)
      else .ok (Text.applySign (sign = '-') (Text.numberOf count)) := by
  have filled : (sign :: count).isEmpty = false := rfl
  rw [readModifier, filled, if_neg Bool.false_ne_true, readNumber, numeral.readInt?_signed signed]
  by_cases long : Text.maxDigits < count.length <;> simp [long]

theorem readModifier_long (added : IsAddition addition)
    (long : Text.maxDigits < addition.tail.length) :
    readModifier addition = .error (.fault .badValue) := by
  cases added with
  | nothing => simp at long
  | signed signed numeral =>
    rw [List.tail_cons] at long
    rw [readModifier_signed signed numeral, if_pos long]

theorem readModifier_short (added : IsAddition addition)
    (short : ¬Text.maxDigits < addition.tail.length) :
    readModifier addition = .ok (addedBy addition) := by
  cases added with
  | nothing => rfl
  | signed signed numeral =>
    rw [List.tail_cons] at short
    rw [readModifier_signed signed numeral, if_neg short, addedBy]

theorem Spells.numerals (spells : Spells text count sides addition) :
    Text.IsNumeral count ∧ Text.IsNumeral sides ∧ IsAddition addition := by
  cases spells with
  | intro counted _ sided added => exact ⟨counted, sided, added⟩

/-- Some number of a formula is too long to be read. -/
def IsOverlong (count sides addition : List Char) : Prop :=
  Text.maxDigits < count.length ∨ Text.maxDigits < sides.length ∨
    Text.maxDigits < addition.tail.length

def unblanked (text : String) : List Char := text.toList.filter fun c => !Text.isBlank c

/-- A text of the shape of a formula, one of whose numbers is too long to be read. -/
def Overlong (text : String) : Prop :=
  ∃ count sides addition, Spells (unblanked text) count sides addition ∧
    IsOverlong count sides addition

section
variable {text : String}

theorem ofText_unspelled
    (other : ¬∃ count sides addition, Spells (unblanked text) count sides addition) :
    ofText text = .error (.diceFormula (.text text)) := by
  have none : split? (unblanked text) = none := by
    cases split : split? (unblanked text) with
    | none => rfl
    | some parts => exact absurd ⟨_, _, _, split?_eq_some.mp split⟩ other
  unfold ofText
  unfold unblanked at none
  rw [none]

theorem ofText_overlong (spells : Spells (unblanked text) count sides addition)
    (long : IsOverlong count sides addition) : ofText text = .error (.fault .badValue) := by
  obtain ⟨counted, sided, added⟩ := spells.numerals
  have split := split?_eq_some.mpr spells
  unfold unblanked at split
  unfold ofText
  rw [split]
  by_cases longCount : Text.maxDigits < count.length
  · exact bind_eq_error.mpr (.inl (readNumber_long counted longCount))
  refine bind_eq_error.mpr (.inr ⟨_, readNumber_short counted longCount, ?_⟩)
  by_cases longSides : Text.maxDigits < sides.length
  · exact bind_eq_error.mpr (.inl (readNumber_long sided longSides))
  refine bind_eq_error.mpr (.inr ⟨_, readNumber_short sided longSides, ?_⟩)
  have last := (long.resolve_left longCount).resolve_left longSides
  exact bind_eq_error.mpr (.inl (readModifier_long added last))

/-- A formula that is not overlong is read as the numbers that it denotes, unless they are too
small. -/
theorem ofText_short (spells : Spells (unblanked text) count sides addition)
    (short : ¬IsOverlong count sides addition) : ofText text =
      if enough : 1 ≤ Text.numberOf count ∧ 2 ≤ Text.numberOf sides then
        .ok ⟨Text.numberOf count, Text.numberOf sides, addedBy addition, enough.1, enough.2⟩
      else .error (.diceCount text) := by
  obtain ⟨counted, sided, added⟩ := spells.numerals
  simp only [IsOverlong, not_or] at short
  have split := split?_eq_some.mpr spells
  unfold unblanked at split
  unfold ofText
  rw [split]
  dsimp only
  rw [readNumber_short counted short.1, readNumber_short sided short.2.1,
    readModifier_short added short.2.2]
  rfl

/-- What is read as a formula has its shape, denotes its numbers and is not overlong. -/
theorem ofText_eq_ok {formula : DiceFormula} : ofText text = .ok formula ↔
    ∃ count sides addition, Spells (unblanked text) count sides addition ∧
      ¬IsOverlong count sides addition ∧ formula.count = Text.numberOf count ∧
      formula.sides = Text.numberOf sides ∧ formula.modifier = addedBy addition := by
  constructor
  · intro read
    by_cases shaped : ∃ count sides addition, Spells (unblanked text) count sides addition
    · obtain ⟨count, sides, addition, spells⟩ := shaped
      refine ⟨count, sides, addition, spells, ?_⟩
      by_cases long : IsOverlong count sides addition
      · rw [ofText_overlong spells long] at read
        cases read
      · rw [ofText_short spells long] at read
        split at read
        · cases read
          exact ⟨long, rfl, rfl, rfl⟩
        · cases read
    · rw [ofText_unspelled shaped] at read
      cases read
  · rintro ⟨count, sides, addition, spells, short, counted, sided, added⟩
    have enough : 1 ≤ Text.numberOf count ∧ 2 ≤ Text.numberOf sides :=
      ⟨counted ▸ formula.count_pos, sided ▸ formula.two_le_sides⟩
    rw [ofText_short spells short, dif_pos enough]
    cases formula
    cases counted
    cases sided
    cases added
    rfl

theorem ofText_cases (text : String) :
    (Overlong text ∧ ofText text = .error (.fault .badValue)) ∨
      ¬Overlong text ∧ ((∃ formula, ofText text = .ok formula) ∨
        ofText text = .error (.diceFormula (.text text)) ∨
        ofText text = .error (.diceCount text)) := by
  by_cases shaped : ∃ count sides addition, Spells (unblanked text) count sides addition
  · obtain ⟨count, sides, addition, spells⟩ := shaped
    by_cases long : IsOverlong count sides addition
    · exact .inl ⟨⟨_, _, _, spells, long⟩, ofText_overlong spells long⟩
    · have short : ¬Overlong text := by
        rintro ⟨_, _, _, other, long'⟩
        cases (split?_eq_some.mpr other).symm.trans (split?_eq_some.mpr spells)
        exact long long'
      refine .inr ⟨short, ?_⟩
      rw [ofText_short spells long]
      split
      · exact .inl ⟨_, rfl⟩
      · exact .inr (.inr rfl)
  · refine .inr ⟨?_, .inr (.inl (ofText_unspelled shaped))⟩
    rintro ⟨_, _, _, spells, _⟩
    exact shaped ⟨_, _, _, spells⟩

end

end Gamebook.DiceFormula
