import Gamebook.Value.Equality

/-!
Equality of dynamic values where one of them is text.
-/
namespace Gamebook.Value

theorem same_text_iff {value : Value} {name : String} :
    same value (.text name) = true ↔ value = .text name := by
  cases value with
  | text other => simp [same, sameScalar]
  | object fields => simp [same, entries?]
  | view entries => simp [same, entries?]
  | _ => simp [same, sameScalar, countable?, number?]

theorem text_same_iff {value : Value} {name : String} :
    same (.text name) value = true ↔ value = .text name := by
  cases value with
  | text other =>
    rw [same_text_iff]
    exact eq_comm
  | _ => simp [same, sameScalar, countable?, number?]

@[simp] theorem beq_text_iff {value : Value} {name : String} :
    (value == .text name) = true ↔ value = .text name := same_text_iff

@[simp] theorem beq_text_false_iff {value : Value} {name : String} :
    (value == .text name) = false ↔ value ≠ .text name := by
  rw [← Bool.not_eq_true, beq_text_iff]

theorem equals_text_iff {value : Value} {name : String} :
    value.equals (.text name) = true ↔ value = .text name := by
  rw [equals, Bool.and_eq_true, same_text_iff]
  exact ⟨fun both => both.2, fun same => ⟨by simp [same, isNaN], same⟩⟩

theorem text_isAmong_iff {items : List Value} {name : String} :
    (Value.text name).isAmong items = true ↔ .text name ∈ items := by
  simp [isAmong, text_same_iff]

end Gamebook.Value
