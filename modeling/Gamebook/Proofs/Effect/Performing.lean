import Gamebook.Effect.Apply
import Gamebook.Proofs.Outcome

/-!
Effects change a state in place, yet whatever can be refused of them is refused before anything is
written. So a refused effect leaves the state as it was, and in a batch it is as if it were not there.
-/
namespace Gamebook.Effect
variable {effect : EffectDef} {state next left : GameState} {failure : Failure}

/-- Writes what a computation gives once nothing can fail any more. -/
def Writes (acting : Acting Unit) (compute : GameState → Outcome GameState) : Prop :=
  ∀ state, acting state = match compute state with
    | .ok next => .ok () next
    | .error failure => .error failure state

namespace Writes
variable {α : Type}

theorem modify (change : GameState → GameState) :
    Writes (modify change) fun state => .ok (change state) := fun _ => rfl

theorem throw (failure : Failure) : Writes (throw failure) fun _ => .error failure := fun _ => rfl

theorem get_bind {next : GameState → Acting Unit} {later : GameState → GameState → Outcome GameState}
    (writes : ∀ before, Writes (next before) (later before)) :
    Writes (get >>= next) fun state => later state state := fun state => writes state state

theorem lift_bind {outcome : Outcome α} {next : α → Acting Unit}
    {later : α → GameState → Outcome GameState} (writes : ∀ value, Writes (next value) (later value)) :
    Writes (liftExcept outcome >>= next) fun state => outcome >>= fun value => later value state := by
  intro state
  cases outcome with
  | error failure => rfl
  | ok value => exact writes value state

end Writes

/-- The state after an effect on a wallet. -/
def walletOutcome (effect : EffectDef) (state : GameState) : Outcome GameState := do
  let amount ← amountOf s!"wallet value for '{effect.target}'" effect.value
  let wallets ← Fault.lift state.wallets.get
  let current := (wallets.get? (.text effect.target)).getD defaultBalance
  let balance ← nextBalance effect.operation current amount.toValue
  return { state with wallets := .known (wallets.insert (.text effect.target) balance) }

def inventoryOutcome (effect : EffectDef) (state : GameState) : Outcome GameState := do
  let amount ← amountOf s!"inventory value for '{effect.target}'" effect.value
  let inventory ← Fault.lift state.inventory.get
  let current := (inventory.get? (.text effect.target)).getD defaultQuantity
  let quantity ← nextQuantity effect.operation current amount.toValue
  let left := if quantity.equals (.int 0) then inventory.erase (.text effect.target)
    else inventory.insert (.text effect.target) quantity
  return { state with inventory := .known left }

def statOutcome (effect : EffectDef) (state : GameState) : Outcome GameState := do
  let amount ← amountOf s!"stat value for '{effect.target}'" effect.value
  let stats ← Fault.lift state.stats.get
  let current := (stats.get? (.text effect.target)).getD defaultStat
  let value ← nextStat effect.operation current amount.toValue
  return { state with stats := .known (stats.insert (.text effect.target) value) }

def flagOutcome (effect : EffectDef) (state : GameState) : Outcome GameState := do
  let flags ← Fault.lift state.flags.get
  let current := (flags.get? (.text effect.target)).getD .null
  let value ← nextFlag effect.target effect.operation current effect.value
  return { state with flags := .known (flags.insert (.text effect.target) value) }

def statusOutcome (effect : EffectDef) (state : GameState) : Outcome GameState :=
  match Operation.ofName? effect.operation with
  | some .subtract => do
    let effects ← Fault.lift state.statusEffects.entries
    let left := StatusEffect.remove (.text effect.target) effects
    return { state with statusEffects := .known (left.map .known) }
  | some .add | some .set => do
    let status ← statusOf effect
    let effects ← Fault.lift state.statusEffects.entries
    return { state with statusEffects := .known ((StatusEffect.upsert status effects).map .known) }
  | _ => refuse (.statusOperation effect.operation)

variable (effect)

theorem applyWallet_writes : Writes (applyWallet effect) (walletOutcome effect) :=
  .lift_bind fun _ => .get_bind fun _ => .lift_bind fun _ => .lift_bind fun _ => .modify _

theorem applyInventory_writes : Writes (applyInventory effect) (inventoryOutcome effect) :=
  .lift_bind fun _ => .get_bind fun _ => .lift_bind fun _ => .lift_bind fun _ => .modify _

theorem applyStat_writes : Writes (applyStat effect) (statOutcome effect) :=
  .lift_bind fun _ => .get_bind fun _ => .lift_bind fun _ => .lift_bind fun _ => .modify _

theorem applyFlag_writes : Writes (applyFlag effect) (flagOutcome effect) := by
  unfold flagOutcome
  exact .get_bind fun _ => .lift_bind fun _ => .lift_bind fun _ => .modify _

theorem applyStatus_writes : Writes (applyStatus effect) (statusOutcome effect) := by
  unfold applyStatus statusOutcome
  rcases Operation.ofName? effect.operation with _ | operation
  · exact .throw _
  cases operation with
  | add => exact .lift_bind fun _ => .get_bind fun _ => .lift_bind fun _ => .modify _
  | subtract => exact .get_bind fun _ => .lift_bind fun _ => .modify _
  | set => exact .lift_bind fun _ => .get_bind fun _ => .lift_bind fun _ => .modify _
  | multiply => exact .throw _

/-- The state after an effect of a kind. -/
def targetOutcome : Target → EffectDef → GameState → Outcome GameState
  | .wallet => walletOutcome
  | .inventory => inventoryOutcome
  | .stat => statOutcome
  | .flag => flagOutcome
  | .status => statusOutcome

/-- The state after an effect, none for one of an unknown type. -/
def outcome (state : GameState) : Outcome (Option GameState) :=
  match Target.ofName? effect.type with
  | some target => do return some (← targetOutcome target effect state)
  | none => .ok none

/-- Performing an effect is writing its outcome, if there is one. -/
theorem perform_eq_outcome (state : GameState) : perform effect state = match outcome effect state with
    | .ok (some next) => .ok true next
    | .ok none => .ok false state
    | .error failure => .error failure state := by
  -- Whatever the kind, the one write comes last, so that the five cases are one.
  have written {acting : Acting Unit} {compute : GameState → Outcome GameState}
      (writes : Writes acting compute) : (do acting; return true : Acting Bool) state =
        match (do return some (← compute state) : Outcome (Option GameState)) with
        | .ok (some next) => .ok true next
        | .ok none => .ok false state
        | .error failure => .error failure state := by
    change EStateM.bind acting _ state = _
    rw [EStateM.bind, writes state]
    cases compute state <;> rfl
  unfold perform outcome
  rcases Target.ofName? effect.type with _ | target
  · rfl
  cases target with
  | wallet => exact written (applyWallet_writes effect)
  | inventory => exact written (applyInventory_writes effect)
  | stat => exact written (applyStat_writes effect)
  | flag => exact written (applyFlag_writes effect)
  | status => exact written (applyStatus_writes effect)

variable {effect}

theorem perform_eq_true :
    perform effect state = .ok true next ↔ outcome effect state = .ok (some next) := by
  rw [perform_eq_outcome]
  rcases outcome effect state with failure | _ | found <;> simp

theorem perform_eq_error : perform effect state = .error failure left ↔
    outcome effect state = .error failure ∧ left = state := by
  rw [perform_eq_outcome]
  rcases outcome effect state with failure | _ | found <;> simp [eq_comm]

/-- An effect that is refused or unknown leaves the state as it was. -/
theorem perform_spares :
    (∀ failure left, perform effect state = .error failure left → left = state) ∧
    ∀ left, perform effect state = .ok false left → left = state := by
  rw [perform_eq_outcome]
  rcases outcome effect state with failure | _ | found <;> simp [eq_comm]

/-- An effect that does not take hold, be it refused or of an unknown type. -/
def Skips (effect : EffectDef) (state : GameState) : Prop :=
  (∃ left, perform effect state = .ok false left) ∨
    ∃ failure left, perform effect state = .error failure left ∧ ∀ fault, failure ≠ .fault fault

theorem perform_cases (effect : EffectDef) (state : GameState) :
    (∃ next, perform effect state = .ok true next) ∨ Skips effect state ∨
      ∃ fault, perform effect state = .error (.fault fault) state := by
  cases performed : perform effect state with
  | ok applied next =>
    cases applied with
    | false => exact .inr (.inl (.inl ⟨next, performed⟩))
    | true => exact .inl ⟨next, rfl⟩
  | error failure left =>
    cases failure with
    | fault fault =>
      obtain rfl := perform_spares.1 _ _ performed
      exact .inr (.inr ⟨fault, rfl⟩)
    | _ => exact .inr (.inl (.inr ⟨_, left, performed, nofun⟩))

theorem run_cons_applied (performed : perform effect state = .ok true next)
    (effects : List EffectDef) : run state (effect :: effects) =
      { run next effects with applied := effect :: (run next effects).applied } := by
  rw [run, performed]

/-- The batch goes on from what a skipped effect left, which is the state that it found. -/
theorem run_cons_skipped (skips : Skips effect state) (effects : List EffectDef) :
    run state (effect :: effects) = run state effects := by
  rw [run]
  rcases skips with ⟨left, unknown⟩ | ⟨failure, left, refused, unbroken⟩
  · obtain rfl := perform_spares.2 _ unknown
    rw [unknown]
  · obtain rfl := perform_spares.1 _ _ refused
    rw [refused]
    cases failure with
    | fault fault => exact absurd rfl (unbroken fault)
    | _ => rfl

theorem run_cons_broken {fault : Fault} (broken : perform effect state = .error (.fault fault) left)
    (effects : List EffectDef) : run state (effect :: effects) = ⟨state, [], some fault⟩ := by
  obtain rfl := perform_spares.1 _ _ broken
  rw [run, broken]

end Gamebook.Effect
