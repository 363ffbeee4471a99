import Gamebook.Proofs.Play.Lawful

/-!
What effects write, told apart from the states they write it to. An effect looks at one entry of a
state and then fails, asks for nothing or asks for an edit of that entry.
-/
namespace Gamebook

namespace Dict

/-- Puts an entry under a name, or takes away what is there. -/
def write (dict : Dict) (name : String) : Option Value → Dict
  | some value => dict.insert (.text name) value
  | none => dict.erase (.text name)

variable (dict : Dict) (name : String) (left : Option Value)

theorem get?_write_self : (dict.write name left).get? (.text name) = left := by
  cases left with
  | some value => exact Assoc.get?_insert_self value (Value.beq_text_iff.mpr rfl)
  | none => simp [write, Assoc.get?, Assoc.erase, List.find?_filter]

theorem get?_write_other {key : Value} (other : key ≠ .text name) :
    (dict.write name left).get? key = dict.get? key := by
  have apart : (Value.text name == key) = false := by
    rw [← Bool.not_eq_true]
    intro same
    exact other (Value.text_same_iff.mp same)
  cases left with
  | some value =>
    apply Assoc.get?_insert_other value _ apart
    intro found here
    rw [Value.beq_text_iff.mp here, apart]
  | none =>
    simp only [write, Assoc.get?, Assoc.erase, List.find?_filter]
    congr 2
    funext pair
    by_cases here : pair.1 = .text name
    · simp [here, apart]
    · simp [Value.beq_text_false_iff.mpr here]

theorem erase_write : (dict.write name left).erase (.text name) = dict.erase (.text name) := by
  cases left with
  | none => simp [write, Assoc.erase, List.filter_filter]
  | some value =>
    simp only [write, Assoc.insert, Assoc.erase]
    split
    · rw [List.filter_map]
      have same : ((fun pair : Value × Value => !pair.1 == .text name) ∘ fun pair =>
          if pair.1 == .text name then (pair.1, value) else pair) =
          fun pair => !pair.1 == .text name := by
        funext pair
        simp only [Function.comp_apply]
        split <;> rfl
      rw [same]
      conv_rhs => rw [← List.map_id (dict.filter _)]
      apply List.map_congr_left
      intro pair member
      have elsewhere := (List.mem_filter.mp member).2
      simp_all
    · simp

end Dict

namespace Effect

/-- The tables in which an effect can write an entry. -/
inductive Shelf where
  | wallets
  | inventory
  | stats
  | flags

def Shelf.target : Shelf → Target
  | .wallets => .wallet
  | .inventory => .inventory
  | .stats => .stat
  | .flags => .flag

theorem Shelf.target_injective : Function.Injective Shelf.target := by
  intro one other same
  cases one <;> cases other <;> simp_all [Shelf.target]

/-- What an effect does to a state when it takes hold. -/
inductive Edit where
  | entry (shelf : Shelf) (name : String) (left : Option Value)
  | cure (name : String)
  | afflict (name : String) (value duration source : Value)

namespace Edit

def place : Edit → Target × String
  | .entry shelf name _ => (shelf.target, name)
  | .cure name | .afflict name .. => (.status, name)

/-- The edit that takes away whatever is at a place. -/
def removal : Target × String → Edit
  | (.wallet, name) => .entry .wallets name none
  | (.inventory, name) => .entry .inventory name none
  | (.stat, name) => .entry .stats name none
  | (.flag, name) => .entry .flags name none
  | (.status, name) => .cure name

end Edit
end Effect

namespace GameState.Contents
open Effect (Shelf Edit Target)

def table (contents : Contents) : Shelf → Dict
  | .wallets => contents.wallets
  | .inventory => contents.inventory
  | .stats => contents.stats
  | .flags => contents.flags

def withTable (contents : Contents) (shelf : Shelf) (dict : Dict) : Contents :=
  match shelf with
  | .wallets => { contents with wallets := dict }
  | .inventory => { contents with inventory := dict }
  | .stats => { contents with stats := dict }
  | .flags => { contents with flags := dict }

def edit (contents : Contents) : Edit → Contents
  | .entry shelf name left => contents.withTable shelf ((contents.table shelf).write name left)
  | .cure name => { contents with effects := StatusEffect.remove (.text name) contents.effects }
  | .afflict name value duration source => { contents with
      effects := StatusEffect.upsert ⟨.text name, value, duration, source⟩ contents.effects }

variable (contents : Contents)

@[simp] theorem table_withTable (shelf : Shelf) (dict : Dict) :
    (contents.withTable shelf dict).table shelf = dict := by
  cases shelf <;> rfl

theorem table_withTable_other {shelf other : Shelf} (apart : other ≠ shelf) (dict : Dict) :
    (contents.withTable shelf dict).table other = contents.table other := by
  cases shelf <;> cases other <;> first | rfl | exact absurd rfl apart

@[simp] theorem withTable_withTable (shelf : Shelf) (dict later : Dict) :
    (contents.withTable shelf dict).withTable shelf later = contents.withTable shelf later := by
  cases shelf <;> rfl

@[simp] theorem effects_withTable (shelf : Shelf) (dict : Dict) :
    (contents.withTable shelf dict).effects = contents.effects := by
  cases shelf <;> rfl

/-- An edit changes what is at its place, and nothing that stays when that is taken away. -/
theorem removal_edit (edit : Edit) :
    (contents.edit edit).edit (.removal edit.place) = contents.edit (.removal edit.place) := by
  cases edit with
  | entry shelf name left =>
    have named : Edit.removal (Edit.entry shelf name left).place = .entry shelf name none := by
      cases shelf <;> rfl
    rw [named]
    simp only [Contents.edit, table_withTable, withTable_withTable, Dict.write]
    congr 1
    exact Dict.erase_write _ name left
  | cure name => simp [Edit.place, Edit.removal, Contents.edit, StatusEffect.remove_remove]
  | afflict name value duration source =>
    simp [Edit.place, Edit.removal, Contents.edit, StatusEffect.remove_upsert]

/-- What an effect of a kind finds under its name; status effects are not looked at. -/
def lookup? (contents : Contents) : Target × String → Option Value
  | (.wallet, name) => contents.wallets.get? (.text name)
  | (.inventory, name) => contents.inventory.get? (.text name)
  | (.stat, name) => contents.stats.get? (.text name)
  | (.flag, name) => contents.flags.get? (.text name)
  | (.status, _) => none

theorem lookup?_shelf (shelf : Shelf) (name : String) :
    contents.lookup? (shelf.target, name) = (contents.table shelf).get? (.text name) := by
  cases shelf <;> rfl

theorem get?_edit_other {edit : Edit} {shelf : Shelf} {key : Value}
    (apart : ∀ name, key = .text name → (shelf.target, name) ≠ edit.place) :
    ((contents.edit edit).table shelf).get? key = (contents.table shelf).get? key := by
  cases edit with
  | cure | afflict => cases shelf <;> rfl
  | entry written name left =>
    by_cases same : shelf = written
    · subst same
      simp only [Contents.edit, table_withTable]
      apply Dict.get?_write_other
      intro named
      exact apart name named rfl
    · simp only [Contents.edit, table_withTable_other _ same]

theorem lookup?_edit {edit : Edit} {place : Target × String} (apart : place ≠ edit.place) :
    (contents.edit edit).lookup? place = contents.lookup? place := by
  obtain ⟨target, name⟩ := place
  have looked (shelf : Shelf) (apart : (shelf.target, name) ≠ edit.place) :
      (contents.edit edit).lookup? (shelf.target, name) = contents.lookup? (shelf.target, name) := by
    rw [lookup?_shelf, lookup?_shelf]
    apply get?_edit_other
    intro other same
    rwa [← Value.text.inj same]
  cases target with
  | wallet => exact looked .wallets apart
  | inventory => exact looked .inventory apart
  | stat => exact looked .stats apart
  | flag => exact looked .flags apart
  | status => rfl

end GameState.Contents

namespace Effect

/-- How much there is of something after an effect. -/
def counted (next : String → Value → Value → Outcome Value) (context : String) (absent : Value)
    (effect : EffectDef) (found : Option Value) : Outcome Value := do
  let amount ← amountOf context effect.value
  next effect.operation (found.getD absent) amount.toValue

/-- What an effect on status effects asks for. -/
def treatment (effect : EffectDef) : Outcome Edit :=
  match Operation.ofName? effect.operation with
  | some .subtract => .ok (.cure effect.target)
  | some .add | some .set => do
    let status ← statusOf effect
    return .afflict effect.target status.value status.duration status.source
  | _ => refuse (.statusOperation effect.operation)

/-- The edit that an effect of a kind asks for where it finds an entry. -/
def asked (effect : EffectDef) (found : Option Value) : Target → Outcome Edit
  | .wallet => do
    let balance ← counted nextBalance s!"wallet value for '{effect.target}'" defaultBalance effect found
    return .entry .wallets effect.target (some balance)
  | .inventory => do
    let quantity ← counted nextQuantity s!"inventory value for '{effect.target}'" defaultQuantity
      effect found
    return .entry .inventory effect.target (if quantity.equals (.int 0) then none else some quantity)
  | .stat => do
    let value ← counted nextStat s!"stat value for '{effect.target}'" defaultStat effect found
    return .entry .stats effect.target (some value)
  | .flag => do
    let value ← nextFlag effect.target effect.operation (found.getD .null) effect.value
    return .entry .flags effect.target (some value)
  | .status => treatment effect

theorem statusOf_type {effect : EffectDef} {status : StatusEffect}
    (made : statusOf effect = .ok status) :
    status = ⟨.text effect.target, status.value, status.duration, status.source⟩ := by
  rw [← (statusOf_lasts made).1]

variable (effect : EffectDef) (contents : GameState.Contents)

theorem counted_bind {α : Type} (next : String → Value → Value → Outcome Value) (context : String)
    (absent : Value) (found : Option Value) (write : Value → Outcome α) :
    counted next context absent effect found >>= write =
      amountOf context effect.value >>= fun amount =>
        next effect.operation (found.getD absent) amount.toValue >>= write :=
  bind_assoc ..

theorem walletOutcome_asked : walletOutcome effect contents.state =
    (asked effect (contents.lookup? (.wallet, effect.target)) .wallet).map
      fun edit => (contents.edit edit).state := by
  rw [asked, map_bind_pure, counted_bind]
  rfl

theorem inventoryOutcome_asked : inventoryOutcome effect contents.state =
    (asked effect (contents.lookup? (.inventory, effect.target)) .inventory).map
      fun edit => (contents.edit edit).state := by
  rw [asked, map_bind_pure, counted_bind]
  have written (quantity : Value) : (contents.edit (.entry .inventory effect.target
      (if quantity.equals (.int 0) then none else some quantity))).state =
      { contents.state with inventory := .known (if quantity.equals (.int 0)
        then contents.inventory.erase (.text effect.target)
        else contents.inventory.insert (.text effect.target) quantity) } := by
    split <;> rfl
  simp only [written]
  rfl

theorem statOutcome_asked : statOutcome effect contents.state =
    (asked effect (contents.lookup? (.stat, effect.target)) .stat).map
      fun edit => (contents.edit edit).state := by
  rw [asked, map_bind_pure, counted_bind]
  rfl

theorem flagOutcome_asked : flagOutcome effect contents.state =
    (asked effect (contents.lookup? (.flag, effect.target)) .flag).map
      fun edit => (contents.edit edit).state := by
  rw [asked, map_bind_pure]
  rfl

theorem statusOutcome_asked : statusOutcome effect contents.state =
    (treatment effect).map fun edit => (contents.edit edit).state := by
  have listed : Fault.lift contents.state.statusEffects.entries = .ok contents.effects := by
    simp [GameState.Contents.state]
  have afflicted : (do
      let status ← statusOf effect
      let effects ← Fault.lift contents.state.statusEffects.entries
      return { contents.state with
        statusEffects := .known ((StatusEffect.upsert status effects).map .known) }) =
      (statusOf effect >>= fun status => pure
        (Edit.afflict effect.target status.value status.duration status.source)).map
        fun edit => (contents.edit edit).state := by
    rw [map_bind_pure, listed]
    cases made : statusOf effect with
    | error failure => rfl
    | ok status =>
      rw [statusOf_type made]
      rfl
  unfold statusOutcome treatment
  rcases Operation.ofName? effect.operation with _ | operation
  · rfl
  · cases operation with
    | subtract =>
      simp only [listed]
      rfl
    | add | set => exact afflicted
    | multiply => rfl

/-- The edit that an effect asks for in a state, or none if its type is unknown. -/
def demand : Outcome (Option Edit) :=
  match Target.ofName? effect.type with
  | some target => (asked effect (contents.lookup? (target, effect.target)) target).map some
  | none => .ok none

/-- The outcome of an effect is that of the edit that it asks for. -/
theorem outcome_eq : outcome effect contents.state =
    (demand effect contents).map (Option.map fun edit => (contents.edit edit).state) := by
  have wrapped (outcome : Outcome Edit) :
      (outcome.map some).map (Option.map fun edit => (contents.edit edit).state) =
        outcome.map (fun edit => (contents.edit edit).state) >>= fun next => pure (some next) := by
    cases outcome <;> rfl
  unfold outcome demand
  cases Target.ofName? effect.type with
  | none => rfl
  | some target =>
    dsimp only
    rw [wrapped]
    cases target with
    | wallet => rw [← walletOutcome_asked]; rfl
    | inventory => rw [← inventoryOutcome_asked]; rfl
    | stat => rw [← statOutcome_asked]; rfl
    | flag => rw [← flagOutcome_asked]; rfl
    | status => rw [asked, ← statusOutcome_asked]; rfl

theorem perform_eq_some {next : GameState} : perform effect contents.state = .ok true next ↔
    ∃ edit, demand effect contents = .ok (some edit) ∧ next = (contents.edit edit).state := by
  rw [perform_eq_true, outcome_eq]
  cases demand effect contents with
  | error failure => simp [Except.map]
  | ok asked => cases asked <;> simp [Except.map, eq_comm]

theorem asked_place {target : Target} {found : Option Value} {edit : Edit}
    (asks : asked effect found target = .ok edit) : edit.place = (target, effect.target) := by
  cases target with
  | wallet | inventory | stat | flag =>
    obtain ⟨value, _, made⟩ := bind_eq_ok.mp asks
    obtain rfl := pure_eq_ok.mp made
    rfl
  | status =>
    simp only [asked, treatment] at asks
    split at asks
    · cases asks
      rfl
    · obtain ⟨status, _, made⟩ := bind_eq_ok.mp asks
      obtain rfl := pure_eq_ok.mp made
      rfl
    · obtain ⟨status, _, made⟩ := bind_eq_ok.mp asks
      obtain rfl := pure_eq_ok.mp made
      rfl
    · simp [refuse] at asks

theorem demand_place {edit : Edit} (asks : demand effect contents = .ok (some edit)) :
    effect.type = edit.place.1.name ∧ effect.target = edit.place.2 := by
  unfold demand at asks
  split at asks
  · rename_i target kind
    cases held : asked effect (contents.lookup? (target, effect.target)) target with
    | error failure => simp [held, Except.map] at asks
    | ok other =>
      rw [held] at asks
      cases asks
      rw [asked_place effect held]
      exact ⟨Target.name_of_ofName? kind, rfl⟩
  · cases asks

/-- What an effect asks for depends on one entry only. -/
theorem demand_edit {edit : Edit}
    (apart : (effect.type, effect.target) ≠ (edit.place.1.name, edit.place.2)) :
    demand effect (contents.edit edit) = demand effect contents := by
  unfold demand
  split
  · rename_i target kind
    rw [contents.lookup?_edit]
    rintro same
    apply apart
    rw [← same, Target.name_of_ofName? kind]
  · rfl

end Effect
end Gamebook
