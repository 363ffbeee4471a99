import Gamebook.Proofs.Effect.Performing
import Gamebook.Proofs.Effect.Result
import Gamebook.Proofs.State.Shape

/-!
Everything that an effect can do to a state, and that a batch is a sequence of such changes. What a
change does not name stays as it was.
-/
namespace Gamebook.Effect

/-- One effect that took hold. -/
inductive Change (effect : EffectDef) (state : GameState) : GameState → Prop
  | balance (wallets : Dict) (balance : Int) (kind : effect.type = Target.wallet.name)
      (held : state.wallets = .known wallets) (bound : balanceFloor ≤ balance) :
      Change effect state
        { state with wallets := .known (wallets.insert (.text effect.target) (.int balance)) }
  | stock (inventory : Dict) (quantity : Int) (kind : effect.type = Target.inventory.name)
      (held : state.inventory = .known inventory) (bound : quantityFloor < quantity) :
      Change effect state
        { state with inventory := .known (inventory.insert (.text effect.target) (.int quantity)) }
  | usedUp (inventory : Dict) (kind : effect.type = Target.inventory.name)
      (held : state.inventory = .known inventory) :
      Change effect state
        { state with inventory := .known (inventory.erase (.text effect.target)) }
  | stat (stats : Dict) (value : Int) (kind : effect.type = Target.stat.name)
      (held : state.stats = .known stats) (bound : statFloor ≤ value) :
      Change effect state
        { state with stats := .known (stats.insert (.text effect.target) (.int value)) }
  | flag (flags : Dict) (value : Value) (kind : effect.type = Target.flag.name)
      (held : state.flags = .known flags)
      (source : value = effect.value ∨ ∃ number : Number, value = number.toValue ∧ number.Settled) :
      Change effect state
        { state with flags := .known (flags.insert (.text effect.target) value) }
  | cured (effects : List StatusEffect) (kind : effect.type = Target.status.name)
      (held : state.statusEffects.entries = .ok effects) :
      Change effect state
        { state with
          statusEffects := .known ((StatusEffect.remove (.text effect.target) effects).map .known) }
  | afflicted (effects : List StatusEffect) (status : StatusEffect)
      (kind : effect.type = Target.status.name)
      (held : state.statusEffects.entries = .ok effects) (made : statusOf effect = .ok status) :
      Change effect state
        { state with statusEffects := .known ((StatusEffect.upsert status effects).map .known) }

theorem Target.name_of_ofName? {name : String} {target : Target}
    (found : Target.ofName? name = some target) : name = target.name := by
  have same := List.find?_some found
  exact (by simpa using same : target.name = name).symm

theorem walletOutcome_change {effect : EffectDef} {state next : GameState}
    (kind : effect.type = Target.wallet.name) (ok : walletOutcome effect state = .ok next) :
    Change effect state next := by
  obtain ⟨amount, _, rest⟩ := bind_eq_ok.mp ok
  obtain ⟨wallets, held, rest⟩ := bind_eq_ok.mp rest
  obtain ⟨balance, reached, rest⟩ := bind_eq_ok.mp rest
  obtain rfl := pure_eq_ok.mp rest
  obtain ⟨whole, rfl, bound⟩ := nextWhole_eq_ok reached
  exact .balance wallets whole kind (Loose.get_eq_ok.mp (Fault.lift_eq_ok.mp held)) bound

theorem inventoryOutcome_change {effect : EffectDef} {state next : GameState}
    (kind : effect.type = Target.inventory.name) (ok : inventoryOutcome effect state = .ok next) :
    Change effect state next := by
  obtain ⟨amount, _, rest⟩ := bind_eq_ok.mp ok
  obtain ⟨inventory, held, rest⟩ := bind_eq_ok.mp rest
  obtain ⟨quantity, reached, rest⟩ := bind_eq_ok.mp rest
  obtain rfl := pure_eq_ok.mp rest
  have held := Loose.get_eq_ok.mp (Fault.lift_eq_ok.mp held)
  obtain ⟨whole, rfl, bound⟩ := nextWhole_eq_ok reached
  have zero : (Value.int whole).equals (.int 0) = decide (whole = 0) := by
    simp [Value.equals, Value.isNaN, Value.same, Value.sameScalar, Value.countable?, Value.number?,
      Number.eq, Number.isSameNaN, Number.compare?]
  rw [zero]
  by_cases none : whole = 0
  · simpa [none] using Change.usedUp inventory kind held
  · have enough : quantityFloor < whole := by
      have : quantityFloor = 0 := rfl
      omega
    simpa [none] using Change.stock inventory whole kind held enough

theorem statOutcome_change {effect : EffectDef} {state next : GameState}
    (kind : effect.type = Target.stat.name) (ok : statOutcome effect state = .ok next) :
    Change effect state next := by
  obtain ⟨amount, _, rest⟩ := bind_eq_ok.mp ok
  obtain ⟨stats, held, rest⟩ := bind_eq_ok.mp rest
  obtain ⟨value, reached, rest⟩ := bind_eq_ok.mp rest
  obtain rfl := pure_eq_ok.mp rest
  obtain ⟨whole, rfl, bound⟩ := nextWhole_eq_ok reached
  exact .stat stats whole kind (Loose.get_eq_ok.mp (Fault.lift_eq_ok.mp held)) bound

theorem flagOutcome_change {effect : EffectDef} {state next : GameState}
    (kind : effect.type = Target.flag.name) (ok : flagOutcome effect state = .ok next) :
    Change effect state next := by
  obtain ⟨flags, held, rest⟩ := bind_eq_ok.mp ok
  obtain ⟨value, reached, rest⟩ := bind_eq_ok.mp rest
  obtain rfl := pure_eq_ok.mp rest
  exact .flag flags value kind (Loose.get_eq_ok.mp (Fault.lift_eq_ok.mp held))
    (nextFlag_eq_ok reached)

theorem statusOutcome_change {effect : EffectDef} {state next : GameState}
    (kind : effect.type = Target.status.name) (ok : statusOutcome effect state = .ok next) :
    Change effect state next := by
  have inflicted (ok : (do
      let status ← statusOf effect
      let effects ← Fault.lift state.statusEffects.entries
      return { state with
        statusEffects := .known ((StatusEffect.upsert status effects).map .known) }) = .ok next) :
      Change effect state next := by
    obtain ⟨status, made, rest⟩ := bind_eq_ok.mp ok
    obtain ⟨effects, held, rest⟩ := bind_eq_ok.mp rest
    obtain rfl := pure_eq_ok.mp rest
    exact .afflicted effects status kind (Fault.lift_eq_ok.mp held) made
  unfold statusOutcome at ok
  split at ok
  · obtain ⟨effects, held, rest⟩ := bind_eq_ok.mp ok
    obtain rfl := pure_eq_ok.mp rest
    exact .cured effects kind (Fault.lift_eq_ok.mp held)
  · exact inflicted ok
  · exact inflicted ok
  · simp [refuse] at ok

theorem perform_change {effect : EffectDef} {state next : GameState}
    (ok : perform effect state = .ok true next) : Change effect state next := by
  have reached := perform_eq_true.mp ok
  unfold outcome at reached
  split at reached
  · rename_i target kind
    obtain ⟨changed, applied, rest⟩ := bind_eq_ok.mp reached
    obtain rfl := Option.some.inj (pure_eq_ok.mp rest)
    have named := Target.name_of_ofName? kind
    cases target with
    | wallet => exact walletOutcome_change named applied
    | inventory => exact inventoryOutcome_change named applied
    | stat => exact statOutcome_change named applied
    | flag => exact flagOutcome_change named applied
    | status => exact statusOutcome_change named applied
  · cases reached

/-- Effects that took hold one after the other. -/
inductive Changes : GameState → List EffectDef → GameState → Prop
  | done (state : GameState) : Changes state [] state
  | more {effect : EffectDef} {effects : List EffectDef} {state between final : GameState}
      (first : Change effect state between) (rest : Changes between effects final) :
      Changes state (effect :: effects) final

/-- Refused and unknown effects leave no trace, so a batch is the changes of its other effects. -/
theorem run_changes (state : GameState) (effects : List EffectDef) :
    Changes state (run state effects).applied (run state effects).state := by
  induction effects generalizing state with
  | nil => exact .done state
  | cons effect effects ih =>
    rcases perform_cases effect state with ⟨next, performed⟩ | skips | ⟨fault, broken⟩
    · rw [run_cons_applied performed]
      exact .more (perform_change performed) (ih next)
    · rw [run_cons_skipped skips]
      exact ih state
    · rw [run_cons_broken broken]
      exact .done state

theorem run_applied (state : GameState) (effects : List EffectDef) :
    (run state effects).applied.Sublist effects := by
  induction effects generalizing state with
  | nil => exact .slnil
  | cons effect effects ih =>
    rcases perform_cases effect state with ⟨next, performed⟩ | skips | ⟨fault, broken⟩
    · rw [run_cons_applied performed]
      exact (ih next).cons_cons effect
    · rw [run_cons_skipped skips]
      exact (ih state).cons effect
    · rw [run_cons_broken broken]
      exact List.nil_sublist _

/-- Stamping is all that a batch adds to its changes. -/
theorem applyAll_state (now : Timestamp) (effects : List EffectDef) (state : GameState) :
    ∃ stamp, (applyAll now effects state).state =
        { (run state effects).state with updatedAt := stamp } ∧
      (applyAll now effects state).applied = (run state effects).applied := by
  unfold applyAll
  dsimp only
  split
  · exact ⟨_, rfl, rfl⟩
  · exact ⟨.known now, rfl, rfl⟩

theorem Changes.keep {state final : GameState} {effects : List EffectDef}
    (changes : Changes state effects final) (kept : GameState → Prop)
    (step : ∀ effect ∈ effects, ∀ before after, kept before → Change effect before after → kept after)
    (start : kept state) : kept final := by
  induction changes with
  | done => exact start
  | more first rest ih =>
    exact ih (fun effect member => step effect (.tail _ member)) (step _ (.head _) _ _ start first)

end Gamebook.Effect
