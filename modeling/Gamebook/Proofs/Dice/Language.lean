import Gamebook.Proofs.Dice.Rendering

/-!
The language of dice formulas: which texts are formulas, which numbers they denote, and which of them
ask for too few dice or sides. What is read is exactly what is denoted, and every formula that can be
written denotes itself.
-/
namespace Gamebook.DiceFormula

/-- A text without blanks and the numbers that it denotes: digits, a `d` in either case, digits, and
digits behind a sign if something is added or taken away. -/
inductive Denotes : List Char → Nat → Nat → Int → Prop
  | plain {counted sided : List Char} {letter : Char} {count sides : Nat}
      (dice : Text.Denotes counted count) (mark : letter = 'd' ∨ letter = 'D')
      (faces : Text.Denotes sided sides) :
      Denotes (counted ++ letter :: sided) count sides 0
  | plus {counted sided added : List Char} {letter : Char} {count sides more : Nat}
      (dice : Text.Denotes counted count) (mark : letter = 'd' ∨ letter = 'D')
      (faces : Text.Denotes sided sides) (addition : Text.Denotes added more) :
      Denotes (counted ++ letter :: (sided ++ '+' :: added)) count sides more
  | minus {counted sided added : List Char} {letter : Char} {count sides less : Nat}
      (dice : Text.Denotes counted count) (mark : letter = 'd' ∨ letter = 'D')
      (faces : Text.Denotes sided sides) (addition : Text.Denotes added less) :
      Denotes (counted ++ letter :: (sided ++ '-' :: added)) count sides (-less)

variable {text : List Char} {count sides : Nat} {modifier : Int}

/-- The numbers that a text denotes are those of the parts that it is split into. -/
theorem denotes_iff : Denotes text count sides modifier ↔ ∃ counted sided addition,
    Spells text counted sided addition ∧ Text.numberOf counted = count ∧
      Text.numberOf sided = sides ∧ addedBy addition = modifier := by
  constructor
  · rintro (⟨dice, mark, faces⟩ | ⟨dice, mark, faces, added⟩ | ⟨dice, mark, faces, added⟩)
    · obtain ⟨counted, counts⟩ := Text.denotes_iff.mp dice
      obtain ⟨sided, sides⟩ := Text.denotes_iff.mp faces
      refine ⟨_, _, [], ?_, counts, sides, rfl⟩
      rw [← List.append_nil (_ :: _)]
      exact .intro counted mark sided .nothing
    · obtain ⟨counted, counts⟩ := Text.denotes_iff.mp dice
      obtain ⟨sided, sides⟩ := Text.denotes_iff.mp faces
      obtain ⟨numeral, more⟩ := Text.denotes_iff.mp added
      refine ⟨_, _, _, .intro counted mark sided (.signed (.inl rfl) numeral), counts, sides, ?_⟩
      rw [addedBy, more]
      rfl
    · obtain ⟨counted, counts⟩ := Text.denotes_iff.mp dice
      obtain ⟨sided, sides⟩ := Text.denotes_iff.mp faces
      obtain ⟨numeral, less⟩ := Text.denotes_iff.mp added
      refine ⟨_, _, _, .intro counted mark sided (.signed (.inr rfl) numeral), counts, sides, ?_⟩
      rw [addedBy, less]
      rfl
  · rintro ⟨counted, sided, addition, ⟨numeral, mark, others, added⟩, rfl, rfl, rfl⟩
    have dice := Text.denotes_iff.mpr ⟨numeral, rfl⟩
    have faces := Text.denotes_iff.mpr ⟨others, rfl⟩
    cases added with
    | nothing =>
      rw [List.append_nil]
      exact .plain dice mark faces
    | signed signed digits =>
      have addition := Text.denotes_iff.mpr ⟨digits, rfl⟩
      rcases signed with rfl | rfl
      · exact .plus dice mark faces addition
      · exact .minus dice mark faces addition

section
variable {text : String}

/-- A text whose numbers can be read is read as the numbers that it denotes, unless they are too
small. -/
theorem ofText_denotes (short : ¬Overlong text)
    (denotes : Denotes (unblanked text) count sides modifier) : ofText text =
      if enough : 1 ≤ count ∧ 2 ≤ sides then .ok ⟨count, sides, modifier, enough.1, enough.2⟩
      else .error (.diceCount text) := by
  obtain ⟨_, _, _, spells, rfl, rfl, rfl⟩ := denotes_iff.mp denotes
  exact ofText_short spells fun long => short ⟨_, _, _, spells, long⟩

theorem ofText_other (other : ¬∃ count sides modifier, Denotes (unblanked text) count sides modifier) :
    ofText text = .error (.diceFormula (.text text)) := by
  refine ofText_unspelled ?_
  rintro ⟨_, _, _, spells⟩
  exact other ⟨_, _, _, denotes_iff.mpr ⟨_, _, _, spells, rfl, rfl, rfl⟩⟩

variable (short : ¬Overlong text)
include short

theorem ofText_eq_ok_iff {formula : DiceFormula} : ofText text = .ok formula ↔
    Denotes (unblanked text) formula.count formula.sides formula.modifier := by
  constructor
  · intro read
    obtain ⟨_, _, _, spells, _, counted, sided, added⟩ := ofText_eq_ok.mp read
    exact denotes_iff.mpr ⟨_, _, _, spells, counted.symm, sided.symm, added.symm⟩
  · intro denotes
    rw [ofText_denotes short denotes, dif_pos ⟨formula.count_pos, formula.two_le_sides⟩]

theorem ofText_eq_diceCount_iff : ofText text = .error (.diceCount text) ↔
    ∃ count sides modifier, Denotes (unblanked text) count sides modifier ∧
      (count < 1 ∨ sides < 2) := by
  constructor
  · intro refused
    by_cases shaped : ∃ count sides modifier, Denotes (unblanked text) count sides modifier
    · obtain ⟨count, sides, modifier, denotes⟩ := shaped
      refine ⟨count, sides, modifier, denotes, ?_⟩
      rw [ofText_denotes short denotes] at refused
      split at refused
      · cases refused
      · omega
    · rw [ofText_other shaped] at refused
      cases refused
  · rintro ⟨count, sides, modifier, denotes, few⟩
    rw [ofText_denotes short denotes, dif_neg (by omega)]

theorem ofText_eq_diceFormula_iff : ofText text = .error (.diceFormula (.text text)) ↔
    ¬∃ count sides modifier, Denotes (unblanked text) count sides modifier := by
  refine ⟨?_, ofText_other⟩
  rintro refused ⟨count, sides, modifier, denotes⟩
  rw [ofText_denotes short denotes] at refused
  split at refused <;> cases refused

end

/-- The texts that are formulas are those that denote numbers. Exactly what they denote is read,
they are refused with their count if it is too small, as every other text is for its shape; and
formulas are read as what they were when they were written. -/
theorem formula_language :
    (∀ text, ¬Overlong text →
      (∀ formula : DiceFormula, ofText text = .ok formula ↔
        Denotes (unblanked text) formula.count formula.sides formula.modifier) ∧
      (ofText text = .error (.diceCount text) ↔ ∃ count sides modifier,
        Denotes (unblanked text) count sides modifier ∧ (count < 1 ∨ sides < 2)) ∧
      (ofText text = .error (.diceFormula (.text text)) ↔
        ¬∃ count sides modifier, Denotes (unblanked text) count sides modifier)) ∧
    ∀ formula : DiceFormula, formula.IsWritable → ofText formula.render = .ok formula :=
  ⟨fun _ short => ⟨fun _ => ofText_eq_ok_iff short, ofText_eq_diceCount_iff short,
    ofText_eq_diceFormula_iff short⟩, fun _ => ofText_render⟩

/-- Blanks anywhere and digits of other scripts; too few dice; no count; a modifier that is taken
away. -/
theorem formula_language_texts :
    Denotes (unblanked " 1 2\tD ٦ + 03 ") 12 6 3 ∧
    (∃ count sides modifier, Denotes (unblanked "0d6") count sides modifier ∧
      (count < 1 ∨ sides < 2)) ∧
    (¬∃ count sides modifier, Denotes (unblanked "d6") count sides modifier) ∧
    ofText (render ⟨3, 10, -2, by decide, by decide⟩) = .ok ⟨3, 10, -2, by decide, by decide⟩ := by
  have short {text : String} {outcome : Outcome DiceFormula} (read : ofText text = outcome)
      (other : outcome ≠ .error (.fault .badValue)) : ¬Overlong text := by
    rintro ⟨_, _, _, spells, long⟩
    exact other (read.symm.trans (ofText_overlong spells long))
  obtain ⟨language, rendered⟩ := formula_language
  have mixed : ofText " 1 2\tD ٦ + 03 " = .ok ⟨12, 6, 3, by decide, by decide⟩ := rfl
  have none : ofText "0d6" = .error (.diceCount "0d6") := rfl
  have uncounted : ofText "d6" = .error (.diceFormula (.text "d6")) := rfl
  refine ⟨?_, ?_, ?_, rendered _ ⟨?_, ?_, ?_⟩⟩
  · exact ((language _ (short mixed nofun)).1 _).mp mixed
  · exact (language _ (short none nofun)).2.1.mp none
  · exact (language _ (short uncounted nofun)).2.2.mp uncounted
  all_goals exact lt_pow_maxDigits (show _ < 10 ^ 2 by decide) (by decide)

end Gamebook.DiceFormula
