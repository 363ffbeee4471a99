import Gamebook.Proofs.Dice.Modifying
import Gamebook.Proofs.Dice.Rendering
import Gamebook.Proofs.Dice.Returning
import Mathlib.Algebra.Order.BigOperators.Group.List

/-!
What a roll shows. There are as many faces as dice, each of them on its die; a single die with twenty
sides decides by itself on its first and its last face, and otherwise the total decides. More to add
or less to reach never spoils a success. The formula that a check leaves gives the same roll again.
-/
namespace Gamebook

attribute [local instance (high)] Zero.ofOfNat0

/-- The difficulty of a roll, if it has one. -/
def Value.ofDifficulty (difficulty : Option Int) : Value := (difficulty.map .int).getD .null

/-- What can be seen of a roll of a formula. -/
structure RollResult.Shows (formula : DiceFormula) (difficulty : Option Int) (roll : RollResult) :
    Prop where
  count : roll.rolls.length = formula.count
  faces : ∀ face ∈ roll.rolls, 1 ≤ face ∧ face ≤ formula.sides
  total : roll.total = roll.rolls.sum + formula.modifier
  least : formula.count + formula.modifier ≤ roll.total
  most : roll.total ≤ formula.count * formula.sides + formula.modifier
  criticalSuccess : roll.criticalSuccess = true ↔
    formula.count = 1 ∧ formula.sides = 20 ∧ roll.rolls = [20]
  criticalFailure : roll.criticalFailure = true ↔
    formula.count = 1 ∧ formula.sides = 20 ∧ roll.rolls = [1]
  success : roll.success = if roll.criticalSuccess then some true
    else if roll.criticalFailure then some false
    else difficulty.map fun least => decide (least ≤ roll.total)

/-- Whether the formula rolls a single die with twenty sides, and it shows a face. -/
def DiceFormula.lands (formula : DiceFormula) (faces : List Int) (face : Int) : Bool :=
  formula.isSingleD20 && faces.head? == some face

/-- Whether faces are a success under a formula, if that can be told. -/
def DiceFormula.verdict (formula : DiceFormula) (difficulty : Value) (faces : List Int) :
    Except Fault (Option Bool) :=
  if formula.lands faces 20 || formula.lands faces 1 then .ok (some (formula.lands faces 20))
  else RollResult.reaches (faces.sum + formula.modifier) difficulty

namespace RollResult
variable {formula : DiceFormula} {written : String} {faces : List Int} {roll : RollResult}

/-- Only the success of a roll can be in question. -/
theorem ofFaces_eq_ok {difficulty : Value} : ofFaces formula written difficulty faces = .ok roll ↔
    ∃ success, formula.verdict difficulty faces = .ok success ∧
      roll = ⟨faces.sum + formula.modifier, faces, formula.modifier, written, success,
        formula.lands faces 20, formula.lands faces 1, difficulty, none⟩ := by
  have split : ofFaces formula written difficulty faces =
      (formula.verdict difficulty faces).map fun success =>
        ⟨faces.sum + formula.modifier, faces, formula.modifier, written, success,
          formula.lands faces 20, formula.lands faces 1, difficulty, none⟩ := by
    unfold ofFaces DiceFormula.verdict DiceFormula.lands
    dsimp only
    split
    · rfl
    · cases reaches (faces.sum + formula.modifier) difficulty <;> rfl
  rw [split]
  cases formula.verdict difficulty faces with
  | error fault => exact ⟨nofun, by rintro ⟨_, ⟨⟩, _⟩⟩
  | ok success =>
    constructor
    · rintro ⟨⟩
      exact ⟨success, rfl, rfl⟩
    · rintro ⟨_, ⟨⟩, rfl⟩
      rfl

theorem ofFaces_formula {difficulty : Value}
    (made : ofFaces formula written difficulty faces = .ok roll) : roll.formula = written := by
  obtain ⟨_, _, rfl⟩ := ofFaces_eq_ok.mp made
  rfl

end RollResult

namespace DiceFormula
variable {formula : DiceFormula} {faces : List Int}

theorem lands_iff {face : Int} (count : faces.length = formula.count) :
    formula.lands faces face = true ↔
      formula.count = 1 ∧ formula.sides = 20 ∧ faces = [face] := by
  simp only [lands, isSingleD20, Bool.and_eq_true, beq_iff_eq, and_assoc]
  refine and_congr_right fun single => and_congr_right fun _ => ?_
  obtain ⟨only, rfl⟩ := List.length_eq_one_iff.mp (count.trans single)
  simp

theorem reaches_ofDifficulty (total : Int) (difficulty : Option Int) :
    RollResult.reaches total (.ofDifficulty difficulty) =
      .ok (difficulty.map fun least => decide (least ≤ total)) := by
  cases difficulty with
  | none => rfl
  | some least =>
    have order : (Number.int least).le (.int total) = decide (least ≤ total) := by
      rw [Bool.eq_iff_iff, decide_eq_true_iff]
      exact Number.le_int
    exact congrArg (Except.ok <| some ·) order

theorem verdict_ofDifficulty (difficulty : Option Int) :
    formula.verdict (.ofDifficulty difficulty) faces = .ok (if formula.lands faces 20 then some true
      else if formula.lands faces 1 then some false
      else difficulty.map fun least => decide (least ≤ faces.sum + formula.modifier)) := by
  unfold verdict
  rw [reaches_ofDifficulty]
  cases formula.lands faces 20 <;> cases formula.lands faces 1 <;> rfl

end DiceFormula

namespace RollResult

theorem sum_bounds {faces : List Int} {sides : Int} (each : ∀ face ∈ faces, 1 ≤ face ∧ face ≤ sides) :
    (faces.length : Int) ≤ faces.sum ∧ faces.sum ≤ faces.length * sides := by
  have least := List.card_nsmul_le_sum faces 1 fun face member => (each face member).1
  have most := List.sum_le_card_nsmul faces sides fun face member => (each face member).2
  rw [Int.nsmul_eq_mul] at least most
  exact ⟨by simpa using least, most⟩

theorem ofFaces_shows (formula : DiceFormula) (written : String) (difficulty : Option Int)
    {faces : List Int} (count : faces.length = formula.count)
    (each : ∀ face ∈ faces, 1 ≤ face ∧ face ≤ formula.sides) :
    ∃ roll, ofFaces formula written (.ofDifficulty difficulty) faces = .ok roll ∧
      roll.rolls = faces ∧ roll.Shows formula difficulty := by
  obtain ⟨least, most⟩ := sum_bounds each
  rw [count] at least most
  refine ⟨_, ofFaces_eq_ok.mpr ⟨_, formula.verdict_ofDifficulty difficulty, rfl⟩, rfl, ?_⟩
  exact ⟨count, each, rfl, Int.add_le_add_right least _, Int.add_le_add_right most _,
    DiceFormula.lands_iff count, DiceFormula.lands_iff count, rfl⟩

/-- With more to add or less to reach, the same faces are still a success. -/
theorem Shows.eases {formula better : DiceFormula} {difficulty eased : Option Int}
    {roll other : RollResult} (shows : roll.Shows formula difficulty)
    (shown : other.Shows better eased) (faces : other.rolls = roll.rolls)
    (count : better.count = formula.count) (sides : better.sides = formula.sides)
    (more : formula.modifier ≤ better.modifier) (less : Option.Rel (· ≥ ·) difficulty eased)
    (succeeds : roll.success = some true) : other.success = some true := by
  have criticalSuccess : other.criticalSuccess = roll.criticalSuccess := by
    rw [Bool.eq_iff_iff, shows.criticalSuccess, shown.criticalSuccess, count, sides, faces]
  have criticalFailure : other.criticalFailure = roll.criticalFailure := by
    rw [Bool.eq_iff_iff, shows.criticalFailure, shown.criticalFailure, count, sides, faces]
  have total : roll.total ≤ other.total := by
    rw [shows.total, shown.total, faces]
    omega
  rw [shows.success] at succeeds
  rw [shown.success, criticalSuccess, criticalFailure]
  by_cases best : roll.criticalSuccess = true
  · rw [if_pos best]
  rw [if_neg best] at succeeds ⊢
  by_cases worst : roll.criticalFailure = true
  · rw [if_pos worst] at succeeds
    cases succeeds
  rw [if_neg worst] at succeeds ⊢
  cases less with
  | none => cases succeeds
  | some lower =>
    have reached := of_decide_eq_true (Option.some.inj succeeds)
    exact congrArg some (decide_eq_true (by omega))

end RollResult

namespace Generator
variable {σ : Type} {generator : Generator σ} {dice : σ}

theorem Fair.draw (fair : generator.Fair dice) {low high : Int} (ordered : low ≤ high) :
    ∃ value after, generator.draw low high dice = .ok value after ∧ (low ≤ value ∧ value ≤ high) ∧
      generator.Fair after := by
  obtain ⟨alive, here, each⟩ := fair
  obtain ⟨value, after, drawn, within, there⟩ := each dice here low high ordered
  exact ⟨value, after, drawn, within, alive, there, each⟩

theorem Fair.drawMany (fair : generator.Fair dice) {low high : Int} (ordered : low ≤ high)
    (count : Nat) : ∃ faces after, generator.drawMany low high count dice = .ok faces after ∧
      faces.length = count ∧ (∀ face ∈ faces, low ≤ face ∧ face ≤ high) ∧ generator.Fair after := by
  induction count generalizing dice with
  | zero => exact ⟨[], dice, rfl, rfl, List.forall_mem_nil _, fair⟩
  | succ count ih =>
    obtain ⟨first, between, drawn, within, fair⟩ := fair.draw ordered
    obtain ⟨faces, after, others, length, each, fair⟩ := ih fair
    refine ⟨first :: faces, after, ?_, by rw [List.length_cons, length],
      List.forall_mem_cons.mpr ⟨within, each⟩, fair⟩
    exact draw_bind_eq_ok.mpr ⟨first, between, drawn,
      draw_bind_eq_ok.mpr ⟨faces, after, others, rfl⟩⟩

theorem rollParsed_eq_ok {formula : DiceFormula} {written : String} {difficulty : Value} {after : σ}
    {result : RollResult} : generator.rollParsed formula written difficulty dice = .ok result after ↔
      ∃ faces, generator.drawMany 1 formula.sides formula.count dice = .ok faces after ∧
        RollResult.ofFaces formula written difficulty faces = .ok result := by
  unfold rollParsed
  rw [draw_bind_eq_ok]
  constructor
  · rintro ⟨faces, between, drawn, last⟩
    obtain ⟨made, rfl⟩ := draw_lift_eq_ok.mp last
    exact ⟨faces, drawn, Fault.lift_eq_ok.mp made⟩
  · rintro ⟨faces, drawn, made⟩
    exact ⟨faces, after, drawn, draw_lift_eq_ok.mpr ⟨Fault.lift_eq_ok.mpr made, rfl⟩⟩

theorem roll_text {text : String} {formula : DiceFormula}
    (read : DiceFormula.ofText text = .ok formula) (difficulty : Value) :
    generator.roll (.text text) difficulty = generator.rollParsed formula text difficulty := by
  have read : DiceFormula.ofValue (.text text) = .ok formula := read
  unfold roll
  rw [read]
  rfl

/-- A formula that is read is rolled, by any generator that keeps to its ranges, and the roll shows
what it says. A formula with the same dice and no less to add, against a difficulty that is no
higher, succeeds wherever it does. -/
theorem roll_shows (fair : generator.Fair dice) {written : String} {formula : DiceFormula}
    (read : DiceFormula.ofText written = .ok formula) (difficulty : Option Int) :
    ∃ result after, generator.roll (.text written) (.ofDifficulty difficulty) dice = .ok result after ∧
      result.Shows formula difficulty ∧
      ∀ {other : String} {better : DiceFormula} {eased : Option Int},
        DiceFormula.ofText other = .ok better → better.count = formula.count →
        better.sides = formula.sides → formula.modifier ≤ better.modifier →
        Option.Rel (· ≥ ·) difficulty eased →
        ∃ again, generator.roll (.text other) (.ofDifficulty eased) dice = .ok again after ∧
          again.Shows better eased ∧ (result.success = some true → again.success = some true) := by
  obtain ⟨faces, after, drawn, length, each, _⟩ :=
    fair.drawMany formula.one_le_sides formula.count
  obtain ⟨result, made, shown, shows⟩ :=
    RollResult.ofFaces_shows formula written difficulty length each
  refine ⟨result, after, ?_, shows, ?_⟩
  · rw [roll_text read]
    exact rollParsed_eq_ok.mpr ⟨faces, drawn, made⟩
  · intro other better eased readOther count sides more less
    obtain ⟨again, remade, shownAgain, showsAgain⟩ :=
      RollResult.ofFaces_shows better other eased (length.trans count.symm) (by rwa [sides])
    refine ⟨again, ?_, showsAgain, shows.eases showsAgain ?_ count sides more less⟩
    · rw [roll_text readOther]
      refine rollParsed_eq_ok.mpr ⟨faces, ?_, remade⟩
      rwa [count, sides]
    · rw [shownAgain, shown]

/-- Four dice of a seeded game, rolled with less to add and then with more. -/
theorem roll_shows_replay : ∃ result again after,
    RandomSource.generator.roll (.text "4d6-3") (.int 14) (.ofSeed (.number 42)) = .ok result after ∧
    RandomSource.generator.roll (.text "4d6+1") (.int 12) (.ofSeed (.number 42)) = .ok again after ∧
    result.Shows ⟨4, 6, -3, by decide, by decide⟩ (some 14) ∧
    again.Shows ⟨4, 6, 1, by decide, by decide⟩ (some 12) ∧
    (result.success = some true → again.success = some true) := by
  have fair := RandomSource.fair_ofSeed (.number 42)
  have read : DiceFormula.ofText "4d6-3" = .ok ⟨4, 6, -3, by decide, by decide⟩ := rfl
  have readMore : DiceFormula.ofText "4d6+1" = .ok ⟨4, 6, 1, by decide, by decide⟩ := rfl
  obtain ⟨result, after, rolled, shows, eases⟩ := roll_shows fair read (some 14)
  have lower : Option.Rel (· ≥ ·) (some (14 : Int)) (some 12) := .some (by decide)
  obtain ⟨again, rerolled, shown, succeeds⟩ := eases readMore rfl rfl (by decide) lower
  exact ⟨result, again, after, rolled, rerolled, shows, shown, succeeds⟩

/-- The formula that a check leaves explains it: rolled from where the check began, whatever was
checked, it gives the same roll and leaves the dice in the same state. -/
theorem roll_of_check {stat difficulty base : Value} {after : σ} {result : RollResult}
    (rolled : generator.check stat difficulty base dice = .ok result after) :
    generator.roll (.text result.formula) difficulty dice = .ok result after := by
  obtain ⟨formula, between, found, rolled⟩ := draw_bind_eq_ok.mp rolled
  obtain ⟨made, rfl⟩ := draw_lift_eq_ok.mp found
  obtain ⟨read, added, based, _, short, rfl⟩ := checkFormula_eq_ok.mp made
  have numbers := DiceFormula.IsWritable.of_ofValue based
  have writable : (read.withModifier (read.modifier + added)).IsWritable :=
    ⟨numbers.count, numbers.sides, Number.isWritable_int.mp short⟩
  obtain ⟨faces, _, shown⟩ := rollParsed_eq_ok.mp rolled
  rw [RollResult.ofFaces_formula shown, roll_text (DiceFormula.ofText_render writable)]
  exact rolled

theorem roll_of_check_strong : ∃ result after,
    RandomSource.generator.check (.int 14) (.int 12) (.text "1d20") (.fixed [10]) =
      .ok result after ∧ result.formula = "1d20+2" ∧ result.success = some true ∧
    RandomSource.generator.roll (.text "1d20+2") (.int 12) (.fixed [10]) = .ok result after := by
  let seen (roll : RollResult) := decide (roll.formula = "1d20+2") && roll.success == some true
  obtain ⟨result, after, rolled, shown⟩ : ∃ result after,
      RandomSource.generator.check (.int 14) (.int 12) (.text "1d20") (.fixed [10]) =
        .ok result after ∧ seen result = true := ok_of_gives (by decide +kernel)
  obtain ⟨formula, success⟩ := Bool.and_eq_true_iff.mp shown
  have formula := of_decide_eq_true formula
  exact ⟨result, after, rolled, formula, eq_of_beq success, formula ▸ roll_of_check rolled⟩

end Generator
end Gamebook
