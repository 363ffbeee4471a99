import Gamebook.Play.SavedGame
import Mathlib.Data.List.Forall2

/-!
Successful computations taken apart: a sequence succeeds exactly when its parts do, and what a draw
or a game leaves behind is what its last part leaves.
-/
namespace Gamebook

theorem bind_eq_ok {ε α β : Type} {first : Except ε α} {next : α → Except ε β} {result : β} :
    (first >>= next) = .ok result ↔ ∃ value, first = .ok value ∧ next value = .ok result := by
  cases first <;> simp [bind, Except.bind]

theorem bind_eq_error {ε α β : Type} {first : Except ε α} {next : α → Except ε β} {problem : ε} :
    (first >>= next) = .error problem ↔
      first = .error problem ∨ ∃ value, first = .ok value ∧ next value = .error problem := by
  cases first <;> simp [bind, Except.bind]

theorem pure_eq_ok {ε α : Type} {value result : α} :
    (pure value : Except ε α) = .ok result ↔ value = result := by
  simp [pure, Except.pure]

theorem bind_pure_eq_error {ε α β : Type} {first : Except ε α} {next : α → β} {problem : ε} :
    (first >>= fun value => pure (next value)) = .error problem ↔ first = .error problem := by
  cases first <;> simp [bind, Except.bind, pure, Except.pure]

theorem map_bind_pure {ε α β γ : Type} (first : Except ε α) (next : α → β) (change : β → γ) :
    (first >>= fun value => pure (next value)).map change =
      first >>= fun value => pure (change (next value)) := by
  cases first <;> rfl

theorem mapM_eq_ok {ε α β : Type} {read : α → Except ε β} {items : List α} {results : List β} :
    items.mapM read = .ok results ↔
      List.Forall₂ (fun item result => read item = .ok result) items results := by
  induction items generalizing results with
  | nil =>
    rw [List.mapM_nil, pure_eq_ok, List.forall₂_nil_left_iff, eq_comm]
  | cons item items ih =>
    rw [List.mapM_cons, bind_eq_ok]
    constructor
    · rintro ⟨first, head, rest⟩
      obtain ⟨others, tail, rest⟩ := bind_eq_ok.mp rest
      obtain rfl := pure_eq_ok.mp rest
      exact .cons head (ih.mp tail)
    · rintro (_ | ⟨head, tail⟩)
      exact ⟨_, head, bind_eq_ok.mpr ⟨_, ih.mpr tail, rfl⟩⟩

theorem source_of_forall₂ {α β : Type} {relates : α → β → Prop} {items : List α} {results : List β}
    (related : List.Forall₂ relates items results) {result : β} (member : result ∈ results) :
    ∃ item ∈ items, relates item result := by
  induction related with
  | nil => cases member
  | cons head _ ih =>
    rcases List.mem_cons.mp member with rfl | later
    · exact ⟨_, .head _, head⟩
    · obtain ⟨item, inside, same⟩ := ih later
      exact ⟨item, .tail _ inside, same⟩

/-- What stands at a place on the right of related lists is related to what stands there on the
left. -/
theorem getElem?_of_forall₂ {α β : Type} {relates : α → β → Prop} {items : List α} {results : List β}
    (related : List.Forall₂ relates items results) {place : Nat} {result : β}
    (there : results[place]? = some result) : ∃ item, items[place]? = some item ∧ relates item result := by
  induction related generalizing place with
  | nil => cases there
  | cons head _ ih =>
    cases place with
    | zero =>
      cases there
      exact ⟨_, rfl, head⟩
    | succ place => exact ih there

theorem mapM_source {ε α β : Type} {read : α → Except ε β} {items : List α} {results : List β}
    (ok : items.mapM read = .ok results) {result : β} (member : result ∈ results) :
    ∃ item ∈ items, read item = .ok result :=
  source_of_forall₂ (mapM_eq_ok.mp ok) member

theorem mapM_result {ε α β : Type} {read : α → Except ε β} {items : List α} {results : List β}
    (ok : items.mapM read = .ok results) {item : α} (member : item ∈ items) :
    ∃ result ∈ results, read item = .ok result :=
  source_of_forall₂ (mapM_eq_ok.mp ok).flip member

theorem mem_flatten_of_mapM {α β ε : Type} {read : α → Except ε (List β)} {items : List α}
    {lists : List (List β)} (all : items.mapM read = .ok lists) {part : β} :
    part ∈ lists.flatten ↔ ∃ item ∈ items, ∃ list, read item = .ok list ∧ part ∈ list := by
  rw [List.mem_flatten]
  constructor
  · rintro ⟨list, member, inside⟩
    obtain ⟨item, there, same⟩ := mapM_source all member
    exact ⟨item, there, list, same, inside⟩
  · rintro ⟨item, there, list, same, inside⟩
    obtain ⟨other, member, same'⟩ := mapM_result all there
    obtain rfl := Except.ok.inj (same.symm.trans same')
    exact ⟨_, member, inside⟩

theorem mapM_of_ok {ε α β : Type} {read : α → Except ε β} {result : α → β} {items : List α}
    (each : ∀ item ∈ items, read item = .ok (result item)) :
    items.mapM read = .ok (items.map result) := by
  refine mapM_eq_ok.mpr (List.forall₂_map_right_iff.mpr ?_)
  exact List.forall₂_same.mpr each

theorem mapM_ok {ε α β : Type} {read : α → Except ε β} {items : List α}
    (each : ∀ item ∈ items, ∃ result, read item = .ok result) :
    ∃ results, items.mapM read = .ok results := by
  induction items with
  | nil => exact ⟨[], rfl⟩
  | cons item items ih =>
    obtain ⟨⟨result, head⟩, others⟩ := List.forall_mem_cons.mp each
    obtain ⟨results, tail⟩ := ih others
    refine ⟨result :: results, ?_⟩
    rw [List.mapM_cons, head, tail]
    rfl

theorem mapM_eq_error {ε α β : Type} {read : α → Except ε β} {items : List α} {problem : ε} :
    items.mapM read = .error problem ↔ ∃ before item after, items = before ++ item :: after ∧
      (∀ earlier ∈ before, ∃ result, read earlier = .ok result) ∧ read item = .error problem := by
  constructor
  · intro failed
    induction items with
    | nil => cases failed
    | cons first items ih =>
      rw [List.mapM_cons] at failed
      cases head : read first with
      | error other =>
        rw [head] at failed
        cases failed
        exact ⟨[], first, items, rfl, List.forall_mem_nil _, head⟩
      | ok result =>
        cases tail : items.mapM read with
        | ok results =>
          rw [head, tail] at failed
          cases failed
        | error other =>
          rw [head, tail] at failed
          cases failed
          obtain ⟨before, item, after, rfl, earlier, broken⟩ := ih tail
          exact ⟨first :: before, item, after, rfl,
            List.forall_mem_cons.mpr ⟨⟨result, head⟩, earlier⟩, broken⟩
  · rintro ⟨before, item, after, rfl, earlier, broken⟩
    induction before with
    | nil =>
      rw [List.nil_append, List.mapM_cons, broken]
      rfl
    | cons first before ih =>
      obtain ⟨⟨result, head⟩, others⟩ := List.forall_mem_cons.mp earlier
      rw [List.cons_append, List.mapM_cons, head, ih others]
      rfl

/-- A fold stops at the first item that cannot be taken to what was made of those before. -/
theorem foldlM_eq_error {ε α β : Type} {step : β → α → Except ε β} {initial : β} {items : List α}
    {problem : ε} : items.foldlM step initial = .error problem ↔
      ∃ before item after total, items = before ++ item :: after ∧
        before.foldlM step initial = .ok total ∧ step total item = .error problem := by
  induction items generalizing initial with
  | nil =>
    constructor
    · rintro ⟨⟩
    · rintro ⟨before, item, after, _, none, _⟩
      cases before <;> cases none
  | cons first items ih =>
    rw [List.foldlM_cons, bind_eq_error]
    constructor
    · rintro (here | ⟨total, head, later⟩)
      · exact ⟨[], first, items, initial, rfl, rfl, here⟩
      · obtain ⟨before, item, after, final, rfl, made, broken⟩ := ih.mp later
        refine ⟨first :: before, item, after, final, rfl, ?_, broken⟩
        rw [List.foldlM_cons]
        exact bind_eq_ok.mpr ⟨total, head, made⟩
    · rintro ⟨before, item, after, final, same, made, broken⟩
      cases before with
      | nil =>
        cases same
        cases made
        exact .inl broken
      | cons other before =>
        cases same
        rw [List.foldlM_cons] at made
        obtain ⟨total, head, rest⟩ := bind_eq_ok.mp made
        exact .inr ⟨total, head, ih.mpr ⟨before, item, after, final, rfl, rest, broken⟩⟩

theorem forM_eq_ok {ε α : Type} {check : α → Except ε PUnit} {items : List α} {result : PUnit} :
    items.forM check = .ok result ↔ ∀ item ∈ items, check item = .ok () := by
  induction items with
  | nil => simp [List.forM, pure, Except.pure]
  | cons first items ih =>
    rw [List.forM, bind_eq_ok, List.forall_mem_cons, ← ih]
    exact ⟨fun ⟨_, head, rest⟩ => ⟨head, rest⟩, fun ⟨head, rest⟩ => ⟨_, head, rest⟩⟩

theorem forM_eq_error {ε α : Type} {check : α → Except ε PUnit} {items : List α} {problem : ε} :
    items.forM check = .error problem ↔ ∃ before item after, items = before ++ item :: after ∧
      (∀ earlier ∈ before, check earlier = .ok ()) ∧ check item = .error problem := by
  constructor
  · intro failed
    induction items with
    | nil => cases failed
    | cons first items ih =>
      rw [List.forM] at failed
      rcases bind_eq_error.mp failed with here | ⟨_, head, later⟩
      · exact ⟨[], first, items, rfl, List.forall_mem_nil _, here⟩
      · obtain ⟨before, item, after, rfl, earlier, broken⟩ := ih later
        exact ⟨first :: before, item, after, rfl, List.forall_mem_cons.mpr ⟨head, earlier⟩, broken⟩
  · rintro ⟨before, item, after, rfl, earlier, broken⟩
    induction before with
    | nil => exact bind_eq_error.mpr (.inl broken)
    | cons first before ih =>
      obtain ⟨head, others⟩ := List.forall_mem_cons.mp earlier
      exact bind_eq_error.mpr (.inr ⟨_, head, ih others⟩)

/-- Whether a draw gives a value that passes a check. -/
def gives {ε σ α : Type} (check : α → Bool) : EStateM.Result ε σ α → Bool
  | .ok value _ => check value
  | .error _ _ => false

theorem ok_of_gives {ε σ α : Type} {check : α → Bool} {result : EStateM.Result ε σ α}
    (given : gives check result = true) :
    ∃ value after, result = .ok value after ∧ check value = true := by
  cases result with
  | ok value after => exact ⟨value, after, rfl, given⟩
  | error failure after => cases given

/-- Whether a draw fails with what passes a check. -/
def breaks {ε σ α : Type} (check : ε → Bool) : EStateM.Result ε σ α → Bool
  | .ok _ _ => false
  | .error failure _ => check failure

theorem error_of_breaks {ε σ α : Type} {check : ε → Bool} {result : EStateM.Result ε σ α}
    (broken : breaks check result = true) :
    ∃ failure after, result = .error failure after ∧ check failure = true := by
  cases result with
  | ok value after => cases broken
  | error failure after => exact ⟨failure, after, rfl, broken⟩

theorem ok_of_isOk {ε α : Type} {result : Except ε α} (ok : result.isOk = true) :
    ∃ value, result = .ok value := by
  cases result with
  | error problem => cases ok
  | ok value => exact ⟨value, rfl⟩

namespace Fault

@[simp] theorem lift_eq_ok {α : Type} {computation : Except Fault α} {value : α} :
    lift computation = .ok value ↔ computation = .ok value := by
  cases computation <;> simp [lift]

theorem lift_eq_error {α : Type} {computation : Except Fault α} {failure : Failure} :
    lift computation = .error failure ↔
      ∃ fault, computation = .error fault ∧ failure = .fault fault := by
  cases computation with
  | ok value => exact ⟨nofun, by rintro ⟨_, ⟨⟩, _⟩⟩
  | error fault =>
    constructor
    · rintro ⟨⟩
      exact ⟨fault, rfl, rfl⟩
    · rintro ⟨_, ⟨⟩, rfl⟩
      rfl

@[simp] theorem lift_ok {α : Type} (value : α) : lift (.ok value) = .ok value := rfl

end Fault

namespace Failure

theorem showing_ne_ok {α : Type} {value : Value} {failure : Failure} {result : α} :
    showing value failure ≠ .ok result := by
  unfold showing
  split <;> nofun

@[simp] theorem showing_text {α : Type} (name : String) (failure : Failure) :
    (showing (.text name) failure : Outcome α) = .error failure := rfl

end Failure

section
variable {ε σ α β : Type}

theorem draw_bind_eq_ok {first : EStateM ε σ α} {next : α → EStateM ε σ β} {result : β}
    {before after : σ} :
    (first >>= next) before = .ok result after ↔
      ∃ value between, first before = .ok value between ∧ next value between = .ok result after := by
  change EStateM.bind first next before = .ok result after ↔ _
  unfold EStateM.bind
  cases first before with
  | error problem between => simp
  | ok value between => exact ⟨fun rest => ⟨value, between, rfl, rest⟩, by rintro ⟨_, _, ⟨⟩, rest⟩; exact rest⟩

theorem draw_bind_eq_error {first : EStateM ε σ α} {next : α → EStateM ε σ β} {problem : ε}
    {before after : σ} : (first >>= next) before = .error problem after ↔
      first before = .error problem after ∨
      ∃ value between, first before = .ok value between ∧
        next value between = .error problem after := by
  change EStateM.bind first next before = .error problem after ↔ _
  unfold EStateM.bind
  cases first before with
  | error other between => simp
  | ok value between => simp

theorem draw_lift_eq_error {computation : Except ε α} {problem : ε} {before after : σ} :
    (liftExcept computation : EStateM ε σ α) before = .error problem after ↔
      computation = .error problem ∧ after = before := by
  cases computation with
  | error other =>
    change EStateM.Result.error other before = .error problem after ↔ _
    simp [eq_comm]
  | ok found => exact ⟨nofun, fun both => nomatch both.1⟩

theorem draw_lift_eq_ok {computation : Except ε α} {value : α} {before after : σ} :
    (liftExcept computation : EStateM ε σ α) before = .ok value after ↔
      computation = .ok value ∧ after = before := by
  cases computation with
  | error problem => exact ⟨nofun, fun both => nomatch both.1⟩
  | ok found =>
    change EStateM.Result.ok found before = .ok value after ↔ _
    simp [eq_comm]

theorem draw_pure_eq_ok {value result : α} {before after : σ} :
    (pure value : EStateM ε σ α) before = .ok result after ↔ value = result ∧ after = before := by
  change EStateM.Result.ok value before = .ok result after ↔ _
  simp [eq_comm]

/-- A computation fails with a problem, whatever it leaves behind. -/
def FailsWith (computation : EStateM ε σ α) (before : σ) (problem : ε) : Prop :=
  ∃ after, computation before = .error problem after

variable {before : σ} {problem : ε}

theorem failsWith_pure (value : α) : ¬ FailsWith (pure value : EStateM ε σ α) before problem := nofun

theorem failsWith_throw {other : ε} :
    FailsWith (throw other : EStateM ε σ α) before problem ↔ other = problem := by
  constructor
  · rintro ⟨_, ⟨⟩⟩
    rfl
  · rintro rfl
    exact ⟨before, rfl⟩

theorem failsWith_bind {first : EStateM ε σ α} {next : α → EStateM ε σ β} :
    FailsWith (first >>= next) before problem ↔ FailsWith first before problem ∨
      ∃ value between, first before = .ok value between ∧ FailsWith (next value) between problem := by
  unfold FailsWith
  simp only [draw_bind_eq_error, exists_or]
  refine or_congr_right ⟨?_, ?_⟩
  · rintro ⟨after, value, between, here, rest⟩
    exact ⟨value, between, here, after, rest⟩
  · rintro ⟨value, between, here, after, rest⟩
    exact ⟨after, value, between, here, rest⟩

theorem failsWith_lift {computation : Except ε α} :
    FailsWith (liftExcept computation : EStateM ε σ α) before problem ↔
      computation = .error problem := by
  unfold FailsWith
  simp only [draw_lift_eq_error, exists_and_left, exists_eq, and_true]

theorem failsWith_lift_bind {computation : Except ε α} {next : α → EStateM ε σ β} :
    FailsWith (liftExcept computation >>= next) before problem ↔ computation = .error problem ∨
      ∃ value, computation = .ok value ∧ FailsWith (next value) before problem := by
  rw [failsWith_bind, failsWith_lift]
  refine or_congr_right ⟨?_, ?_⟩
  · rintro ⟨value, between, here, rest⟩
    obtain ⟨found, rfl⟩ := draw_lift_eq_ok.mp here
    exact ⟨value, found, rest⟩
  · rintro ⟨value, found, rest⟩
    exact ⟨value, before, draw_lift_eq_ok.mpr ⟨found, rfl⟩, rest⟩

end
end Gamebook
