import Gamebook.Proofs.Condition.Parsing
import Gamebook.Proofs.Number.Clashing

/-!
What stops a calculation with as many numbers as it takes: nothing that is done with whole numbers
alone, but for a quotient past all doubles.
-/
namespace Gamebook.Condition

/-- What stops a calculation with as many numbers as it takes. -/
inductive Spoils : Operation → List Number → Fault → Prop
  | sum {before after : List Number} {number total : Number} (made : Number.sum before = .ok total)
      (clash : total.Clash number) : Spoils .add (before ++ number :: after) .tooLarge
  | product {before after : List Number} {number total : Number}
      (made : Number.product before = .ok total) (clash : total.Clash number) :
      Spoils .multiply (before ++ number :: after) .tooLarge
  | difference {a b : Number} (clash : a.Clash b) : Spoils .subtract [a, b] .tooLarge
  | share {a b : Number} (nonzero : b.isZero = false) (clash : a.Clash b) :
      Spoils .divide [a, b] .tooLarge
  | wholeShare {m n : Int} (nonzero : n ≠ 0) (endless : Double.endless * n.natAbs ≤ m.natAbs) :
      Spoils .divide [.int m, .int n] .tooLarge
  | rest {a b : Number} (nonzero : b.isZero = false) (endless : a.Endless ∨ b.Endless) :
      Spoils .remainder [a, b] .tooLarge
  | endlessRest {negative : Bool} {b : Number} (nonzero : b.isZero = false)
      (counts : b.isNaN = false) (fits : ¬ b.Endless) :
      Spoils .remainder [.real (.infinite negative), b] .badValue

section
variable {a b : Number} {fault : Fault}

theorem lift_eq_fault {α : Type} {computation : Except Fault α} :
    Fault.lift computation = .error (.fault fault) ↔ computation = .error fault := by
  cases computation <;> simp [Fault.lift]

theorem divideBy_eq_fault {operation : Operation} {divide : Number → Number → Except Fault Number} :
    divideBy operation divide a b = .error (.fault fault) ↔
      b.isZero = false ∧ divide a b = .error fault := by
  unfold divideBy
  cases b.isZero with
  | true => exact iff_of_false (by rintro ⟨⟩) (by rintro ⟨⟨⟩, _⟩)
  | false => simp [lift_eq_fault]

theorem divide_spoils_iff :
    Spoils .divide [a, b] fault ↔ b.isZero = false ∧ a.div b = .error fault := by
  by_cases whole : ∃ m n, a = .int m ∧ b = .int n
  · obtain ⟨m, n, rfl, rfl⟩ := whole
    constructor
    · rintro (_ | _ | _ | ⟨_, clash⟩ | ⟨nonzero, endless⟩)
      · exact clash.elim
      · exact ⟨by simpa [Number.isZero] using nonzero,
          (Number.div_int_eq_error nonzero).mpr ⟨endless, rfl⟩⟩
    · rintro ⟨nonzero, failed⟩
      have divides : n ≠ 0 := by simpa [Number.isZero] using nonzero
      obtain ⟨endless, rfl⟩ := (Number.div_int_eq_error divides).mp failed
      exact .wholeShare divides endless
  · rw [Number.div_eq_lift whole, Number.lift_eq_error]
    constructor
    · intro spoiled
      cases spoiled with
      | share nonzero clash => exact ⟨nonzero, clash, rfl⟩
      | wholeShare => exact absurd ⟨_, _, rfl, rfl⟩ whole
    · rintro ⟨nonzero, clash, rfl⟩
      exact .share nonzero clash

theorem remainder_spoils_iff :
    Spoils .remainder [a, b] fault ↔ b.isZero = false ∧ a.rem b = .error fault := by
  constructor
  · intro spoiled
    cases spoiled with
    | rest nonzero endless => exact ⟨nonzero, (Number.rem_eq_error nonzero).mpr (.inl ⟨endless, rfl⟩)⟩
    | endlessRest nonzero counts fits =>
      exact ⟨nonzero, (Number.rem_eq_error nonzero).mpr (.inr ⟨fits, counts, ⟨_, rfl⟩, rfl⟩)⟩
  · rintro ⟨nonzero, failed⟩
    rcases (Number.rem_eq_error nonzero).mp failed with
      ⟨endless, rfl⟩ | ⟨fits, counts, ⟨_, rfl⟩, rfl⟩
    · exact .rest nonzero endless
    · exact .endlessRest nonzero counts fits

theorem calculate_eq_fault {operation : Operation} {numbers : List Number}
    (takes : Takes operation.name numbers.length) :
    calculate operation numbers = .error (.fault fault) ↔ Spoils operation numbers fault := by
  rw [operation.takes_iff] at takes
  cases operation with
  | add =>
    rw [calculate, lift_eq_fault, Number.sum, Number.add, Number.foldlM_lift_eq_error]
    constructor
    · rintro ⟨rfl, before, number, after, total, rfl, made, clash⟩
      exact .sum made clash
    · rintro ⟨made, clash⟩
      exact ⟨rfl, _, _, _, _, rfl, made, clash⟩
  | multiply =>
    rw [calculate, lift_eq_fault, Number.product, Number.mul, Number.foldlM_lift_eq_error]
    constructor
    · rintro ⟨rfl, before, number, after, total, rfl, made, clash⟩
      exact .product made clash
    · rintro (_ | ⟨made, clash⟩)
      exact ⟨rfl, _, _, _, _, rfl, made, clash⟩
  | subtract =>
    match numbers, takes with
    | [a], _ => exact iff_of_false (by rintro ⟨⟩) (by rintro ⟨⟩)
    | [a, b], _ =>
      rw [calculate, lift_eq_fault, Number.sub, Number.lift_eq_error]
      constructor
      · rintro ⟨clash, rfl⟩
        exact .difference clash
      · rintro (_ | _ | clash)
        exact ⟨clash, rfl⟩
    | _ :: _ :: _ :: _, counted => exact absurd (counted.2 2 rfl) (by simp)
  | divide =>
    obtain ⟨a, b, rfl⟩ := List.length_eq_two.mp (Nat.le_antisymm (takes.2 2 rfl) takes.1)
    rw [calculate, divideBy_eq_fault, divide_spoils_iff]
  | remainder =>
    obtain ⟨a, b, rfl⟩ := List.length_eq_two.mp (Nat.le_antisymm (takes.2 2 rfl) takes.1)
    rw [calculate, divideBy_eq_fault, remainder_spoils_iff]
  | least =>
    obtain ⟨first, rest, rfl⟩ := List.exists_cons_of_length_pos takes.1
    exact iff_of_false (by rintro ⟨⟩) (by rintro ⟨⟩)
  | greatest =>
    obtain ⟨first, rest, rfl⟩ := List.exists_cons_of_length_pos takes.1
    exact iff_of_false (by rintro ⟨⟩) (by rintro ⟨⟩)

end
end Gamebook.Condition
