import Gamebook.Dice.Roll
import Gamebook.Play.Transition
import Gamebook.Proofs.Outcome

/-!
Rolls from generators that always answer. Whether they can be made, and what is wrong with them if
they cannot, is settled before anything is drawn: the numbers decide nothing but the rolls.
-/
namespace Gamebook

/-- From a state on, every draw from a range that is not empty gives a number. -/
def Generator.Returns {σ : Type} (generator : Generator σ) (dice : σ) : Prop :=
  ∃ alive : σ → Prop, alive dice ∧ ∀ dice, alive dice → ∀ low high, low ≤ high →
    ∃ value after, generator.draw low high dice = .ok value after ∧ alive after

/-- From a state on, every draw from a range that is not empty gives a number in it. -/
def Generator.Fair {σ : Type} (generator : Generator σ) (dice : σ) : Prop :=
  ∃ alive : σ → Prop, alive dice ∧ ∀ dice, alive dice → ∀ low high, low ≤ high →
    ∃ value after, generator.draw low high dice = .ok value after ∧ (low ≤ value ∧ value ≤ high) ∧
      alive after

/-- Whatever is drawn, a draw fails as an outcome does, or gives what looks like its value. -/
def Generator.EndsAs {σ α β : Type} (generator : Generator σ) (view : α → β) (verdict : Outcome β)
    (drawing : Drawing σ α) : Prop :=
  ∀ dice, generator.Returns dice → ∃ after, generator.Returns after ∧
    ((∃ value, drawing dice = .ok value after ∧ verdict = .ok (view value)) ∨
      ∃ failure, drawing dice = .error failure after ∧ verdict = .error failure)

namespace Generator
variable {σ : Type} {generator : Generator σ}

theorem Fair.returns {dice : σ} (fair : generator.Fair dice) : generator.Returns dice := by
  obtain ⟨alive, here, each⟩ := fair
  refine ⟨alive, here, fun dice here low high ordered => ?_⟩
  obtain ⟨value, after, drawn, _, there⟩ := each dice here low high ordered
  exact ⟨value, after, drawn, there⟩

theorem Returns.draw {dice : σ} (returns : generator.Returns dice) {low high : Int}
    (ordered : low ≤ high) :
    ∃ value after, generator.draw low high dice = .ok value after ∧ generator.Returns after := by
  obtain ⟨alive, here, each⟩ := returns
  obtain ⟨value, after, drawn, there⟩ := each dice here low high ordered
  exact ⟨value, after, drawn, alive, there, each⟩

section
variable {α β γ δ : Type} {view : α → β} {shape : γ → δ}

theorem endsAs_lift (outcome : Outcome α) : generator.EndsAs id outcome (liftExcept outcome) := by
  intro dice returns
  refine ⟨dice, returns, ?_⟩
  cases outcome with
  | ok value => exact .inl ⟨value, rfl, rfl⟩
  | error failure => exact .inr ⟨failure, rfl, rfl⟩

theorem endsAs_pure (view : α → β) (value : α) :
    generator.EndsAs view (.ok (view value)) (pure value) :=
  fun dice returns => ⟨dice, returns, .inl ⟨value, rfl, rfl⟩⟩

theorem endsAs_throw (view : α → β) (failure : Failure) :
    generator.EndsAs view (.error failure) (throw failure) :=
  fun dice returns => ⟨dice, returns, .inr ⟨failure, rfl, rfl⟩⟩

theorem endsAs_bind {verdict : Outcome β} {drawing : Drawing σ α} {judge : β → Outcome δ}
    {next : α → Drawing σ γ} (first : generator.EndsAs view verdict drawing)
    (rest : ∀ value, generator.EndsAs shape (judge (view value)) (next value)) :
    generator.EndsAs shape (verdict >>= judge) (drawing >>= next) := by
  intro dice returns
  obtain ⟨between, alive, ⟨value, drawn, rfl⟩ | ⟨failure, drawn, rfl⟩⟩ := first dice returns
  · obtain ⟨after, alive, ⟨result, made, same⟩ | ⟨failure, made, same⟩⟩ := rest value between alive
    · exact ⟨after, alive, .inl ⟨result, draw_bind_eq_ok.mpr ⟨value, between, drawn, made⟩, same⟩⟩
    · exact ⟨after, alive, .inr ⟨failure,
        draw_bind_eq_error.mpr (.inr ⟨value, between, drawn, made⟩), same⟩⟩
  · exact ⟨between, alive, .inr ⟨failure, draw_bind_eq_error.mpr (.inl drawn), rfl⟩⟩

theorem endsAs_lift_bind {outcome : Outcome α} {judge : α → Outcome δ} {next : α → Drawing σ γ}
    (rest : ∀ value, generator.EndsAs shape (judge value) (next value)) :
    generator.EndsAs shape (outcome >>= judge) (liftExcept outcome >>= next) :=
  endsAs_bind (endsAs_lift outcome) rest

theorem endsAs_map {verdict : Outcome β} {drawing : Drawing σ α} {change : α → γ} {seen : γ → β}
    (ends : generator.EndsAs view verdict drawing) (same : ∀ value, seen (change value) = view value) :
    generator.EndsAs seen verdict (drawing >>= fun value => pure (change value)) := by
  intro dice returns
  obtain ⟨after, alive, ⟨value, drawn, rfl⟩ | ⟨failure, drawn, rfl⟩⟩ := ends dice returns
  · refine ⟨after, alive, .inl ⟨change value, ?_, congrArg Except.ok (same value).symm⟩⟩
    exact draw_bind_eq_ok.mpr ⟨value, after, drawn, rfl⟩
  · exact ⟨after, alive, .inr ⟨failure, draw_bind_eq_error.mpr (.inl drawn), rfl⟩⟩

end

/-- Nothing that is seen of a draw. -/
def unseen {α : Type} (_ : α) : Unit := ()

/-- What succeeds whatever is drawn has no say in the verdict. -/
theorem endsAs_ok_bind {α γ δ : Type} {shape : γ → δ} {verdict : Outcome δ} {drawing : Drawing σ α}
    {next : α → Drawing σ γ} (first : generator.EndsAs unseen (.ok ()) drawing)
    (rest : ∀ value, generator.EndsAs shape verdict (next value)) :
    generator.EndsAs shape verdict (drawing >>= next) :=
  @endsAs_bind σ generator _ _ _ _ _ _ _ _ (fun _ => verdict) _ first rest

theorem drawMany_endsAs {low high : Int} (ordered : low ≤ high) (count : Nat) :
    generator.EndsAs unseen (.ok ()) (generator.drawMany low high count) := by
  induction count with
  | zero => exact endsAs_pure unseen []
  | succ count ih =>
    have one : generator.EndsAs unseen (.ok ()) (generator.draw low high) := by
      intro dice returns
      obtain ⟨value, after, drawn, alive⟩ := returns.draw ordered
      exact ⟨after, alive, .inl ⟨value, drawn, rfl⟩⟩
    exact endsAs_ok_bind one fun first => endsAs_map ih fun rest => rfl

end Generator

theorem DiceFormula.one_le_sides (formula : DiceFormula) : (1 : Int) ≤ formula.sides := by
  have := formula.two_le_sides
  omega

theorem RollResult.ofFaces_int (formula : DiceFormula) (written : String) (difficulty : Int)
    (faces : List Int) : ∃ roll, ofFaces formula written (.int difficulty) faces = .ok roll := by
  unfold ofFaces
  dsimp only
  split <;> exact ⟨_, rfl⟩

/-- What keeps a requirement from being rolled for, if anything does. -/
def RollRequirement.verdict (stats : Loose Dict) (requirement : RollRequirement) : Outcome Unit := do
  let key : Value := .text requirement.stat
  if !(← Fault.lift (stats.hasKey key)) then throw (.unknownStat requirement.stat)
  match stats with
  | .other _ => throw (.fault .wrongKind)
  | .known dict =>
    let _ ← checkFormula (.text requirement.formulaText) ((dict.get? key).getD .null)
    return ()

namespace Generator
variable {σ : Type} {generator : Generator σ}

theorem rollParsed_endsAs (formula : DiceFormula) (written : String) (difficulty : Int) :
    generator.EndsAs unseen (.ok ()) (generator.rollParsed formula written (.int difficulty)) := by
  refine endsAs_ok_bind (drawMany_endsAs formula.one_le_sides formula.count) fun faces => ?_
  obtain ⟨roll, made⟩ := RollResult.ofFaces_int formula written difficulty faces
  rw [made]
  exact endsAs_pure unseen roll

theorem resolve_endsAs (stats : Loose Dict) (requirement : RollRequirement) :
    generator.EndsAs unseen (requirement.verdict stats) (generator.resolve stats requirement) := by
  refine endsAs_lift_bind fun known => ?_
  cases known with
  | false => exact endsAs_throw unseen _
  | true =>
    cases stats with
    | other value => exact endsAs_throw unseen _
    | known dict =>
      have rolled (stat : Value) : generator.EndsAs unseen
          (checkFormula (.text requirement.formulaText) stat >>= fun _ => .ok ())
          (generator.check stat (.int requirement.difficulty) (.text requirement.formulaText)) :=
        endsAs_lift_bind fun formula => rollParsed_endsAs formula formula.render _
      exact endsAs_map (rolled _) fun roll => rfl

/-- Rolls for requirements are made, or refused for the first that cannot be rolled for. -/
theorem resolveAll_endsAs (stats : Loose Dict) (requirements : List RollRequirement) :
    generator.EndsAs unseen (requirements.forM (·.verdict stats))
      (generator.resolveAll stats requirements) := by
  induction requirements with
  | nil => exact endsAs_pure unseen []
  | cons requirement requirements ih =>
    exact endsAs_bind (resolve_endsAs stats requirement) fun roll => endsAs_map ih fun rolls => rfl

end Generator

theorem Twister.below_lt (twister : Twister) {bound : Nat} (positive : 0 < bound) :
    (twister.below bound).1 < bound := by
  unfold below
  generalize maxRetries = retries
  induction retries generalizing twister with
  | zero => exact positive
  | succ retries ih =>
    rw [belowAfter]
    dsimp only
    split
    · assumption
    · exact ih _

theorem RandomSource.fair_ofSeed (seed : Seed) : generator.Fair (ofSeed seed) := by
  refine ⟨fun source => ∃ state, source = .twister state, ⟨_, rfl⟩, ?_⟩
  rintro _ ⟨state, rfl⟩ low high ordered
  have small := state.below_lt (show 0 < (high - low + 1).toNat by omega)
  simp only [generator, drawFrom, if_pos ordered]
  exact ⟨_, _, rfl, by omega, _, rfl⟩

theorem RandomSource.returns_ofSeed (seed : Seed) : generator.Returns (ofSeed seed) :=
  (fair_ofSeed seed).returns

end Gamebook
