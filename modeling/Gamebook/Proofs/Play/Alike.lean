import Gamebook.Proofs.Dice.Returning
import Gamebook.Proofs.Play.Serving
import Gamebook.Proofs.Save.Naming

/-!
Computations in two worlds that may differ in everything but one save. What is done to that save comes
to the same in both, but for what is rolled.
-/
namespace Gamebook

/-- Two worlds in which one save holds the same, all saves name themselves and dice always
answer. -/
structure World.Close [Host] {σ : Type} (generator : Generator σ) (id : SaveId)
    (world other : World σ) : Prop where
  held : world.saves.held id = other.saves.held id
  named : world.saves.Named ∧ other.saves.Named
  returns : generator.Returns world.dice ∧ generator.Returns other.dice

/-- Two computations end in close worlds, with the same failure or with values that are related. -/
inductive World.Ends [Host] {σ α : Type} (generator : Generator σ) (id : SaveId)
    (relates : α → α → Prop) :
    EStateM.Result Failure (World σ) α → EStateM.Result Failure (World σ) α → Prop
  | ok {value other : α} {after last : World σ} (related : relates value other)
      (close : after.Close generator id last) : Ends generator id relates (.ok value after) (.ok other last)
  | error (failure : Failure) {after last : World σ} (close : after.Close generator id last) :
      Ends generator id relates (.error failure after) (.error failure last)

/-- From close worlds, two computations end alike. -/
def Playing.Alike [Host] {σ α : Type} (generator : Generator σ) (id : SaveId) (relates : α → α → Prop)
    (first second : Playing σ α) : Prop :=
  ∀ world other, World.Close generator id world other →
    World.Ends generator id relates (first world) (second other)

namespace Playing
variable {σ α β : Type} {generator : Generator σ} {id : SaveId} {relates : α → α → Prop}
  {results : β → β → Prop}

theorem alike_pure [Host] {value other : α} (related : relates value other) :
    Alike generator id relates (pure value) (pure other) := fun _ _ close => .ok related close

theorem alike_throw [Host] (failure : Failure) :
    Alike generator id relates (throw failure) (throw failure) :=
  fun _ _ close => .error failure close

theorem alike_bind [Host] {first second : Playing σ α} {next other : α → Playing σ β}
    (heads : Alike generator id relates first second)
    (tails : ∀ value result, relates value result →
      Alike generator id results (next value) (other result)) :
    Alike generator id results (first >>= next) (second >>= other) := by
  intro before beforehand close
  have both := heads before beforehand close
  show World.Ends generator id results (EStateM.bind first next before)
    (EStateM.bind second other beforehand)
  unfold EStateM.bind
  generalize first before = one at both
  generalize second beforehand = two at both
  cases both with
  | ok related near => exact tails _ _ related _ _ near
  | error failure near => exact .error failure near

theorem Alike.weaken [Host] {first second : Playing σ α}
    (alike : Alike generator id relates first second)
    {weaker : α → α → Prop} (less : ∀ value other, relates value other → weaker value other) :
    Alike generator id weaker first second := by
  intro world other close
  have both := alike world other close
  generalize first world = one at both ⊢
  generalize second other = two at both ⊢
  cases both with
  | ok related near => exact .ok (less _ _ related) near
  | error failure near => exact .error failure near

theorem Alike.reply [Host] {first second : Playing σ α}
    (alike : Alike generator id relates first second)
    {make : α → β} (same : ∀ value other, relates value other → results (make value) (make other)) :
    Alike generator id results (first >>= fun value => pure (make value))
      (second >>= fun value => pure (make value)) :=
  alike_bind alike fun value other related => alike_pure (same value other related)

theorem alike_outcome [Host] (result : Outcome α) :
    Alike generator id (fun value other => value = other ∧ result = .ok value) (outcome result)
      (outcome result) := by
  intro world other close
  cases result with
  | ok value => exact .ok ⟨rfl, rfl⟩ close
  | error failure => exact .error failure close

/-- What is worked out from what the saves hold comes to the same if one save settles it. -/
theorem alike_ask [Host] {ask : SaveStore → Outcome α}
    (settled : ∀ store other : SaveStore, store.held id = other.held id → ask store = ask other)
    {next other : α → Playing σ β}
    (rest : ∀ value, Alike generator id results (next value) (other value)) :
    Alike generator id results (get >>= fun world => outcome (ask world.saves) >>= next)
      (get >>= fun world => outcome (ask world.saves) >>= other) := by
  intro world last close
  rw [get_bind, get_bind, settled last.saves world.saves close.held.symm]
  exact alike_bind (alike_outcome _) (fun _ _ same => same.1 ▸ rest _) world last close

theorem alike_load [Host] (short : id.IsShort) :
    Alike generator id (fun state other => state = other ∧ state.saveId = .text id.text) (load id)
      (load id) := by
  intro world last close
  have same := SaveStore.load_short short close.held
  cases found : last.saves.load id with
  | ok state =>
    have first : load id world = .ok state world := load_eq_ok.mpr ⟨same.trans found, rfl⟩
    have second : load id last = .ok state last := load_eq_ok.mpr ⟨found, rfl⟩
    rw [first, second]
    exact .ok ⟨rfl, close.named.2.saveId found⟩ close
  | error failure =>
    have first : load id world = .error failure world := load_eq_error.mpr ⟨same.trans found, rfl⟩
    have second : load id last = .error failure last := load_eq_error.mpr ⟨found, rfl⟩
    rw [first, second]
    exact .error failure close

theorem alike_draw [Host] {γ : Type} {view : α → γ} {verdict : Outcome γ} {drawing : Drawing σ α}
    (ends : generator.EndsAs view verdict drawing) :
    Alike generator id (fun value other => view value = view other ∧
        (∃ dice after, drawing dice = .ok value after) ∧ ∃ dice after, drawing dice = .ok other after)
      (draw drawing) (draw drawing) := by
  intro world last close
  obtain ⟨after, alive, one⟩ := ends world.dice close.returns.1
  obtain ⟨final, living, two⟩ := ends last.dice close.returns.2
  have near : World.Close generator id { world with dice := after } { last with dice := final } :=
    ⟨close.held, close.named, alive, living⟩
  unfold draw
  -- Both draws come to what the verdict is, so that one cannot fail and the other give something.
  rcases one with ⟨value, drawn, same⟩ | ⟨failure, drawn, same⟩ <;>
    rcases two with ⟨result, also, equally⟩ | ⟨problem, also, equally⟩ <;>
      rw [drawn, also]
  · exact .ok ⟨Except.ok.inj (same.symm.trans equally), ⟨_, _, drawn⟩, _, _, also⟩ near
  · cases same.symm.trans equally
  · cases same.symm.trans equally
  · cases same.symm.trans equally
    exact .error failure near

theorem alike_persist [Host] {state : GameState} (named : state.saveId = .text id.text) :
    Alike generator id (fun _ _ => True) (persist state) (persist state) := by
  refine alike_bind (alike_outcome _) ?_
  rintro document _ ⟨rfl, documented⟩
  refine alike_bind (alike_outcome _) ?_
  rintro own _ ⟨rfl, asked⟩
  obtain rfl : id = own := Except.ok.inj ((SaveId.ofValue_text id).symm.trans (named ▸ asked))
  intro world last close
  have same := SaveStore.write_same close.held (.object document) (Snapshot.isNamed state)
  cases written : (world.saves.write id (.object document) (Snapshot.isNamed state)).2 with
  | error failure =>
    have here := SaveStore.write_spares written
    have there := SaveStore.write_spares (same.symm.trans written)
    have first : write id (.object document) (Snapshot.isNamed state) world = .error failure _ :=
      draw_lift_eq_error.mpr ⟨written, rfl⟩
    have second : write id (.object document) (Snapshot.isNamed state) last = .error failure _ :=
      draw_lift_eq_error.mpr ⟨same.symm.trans written, rfl⟩
    rw [first, second]
    exact .error failure ⟨(here id).1.trans (close.held.trans (there id).1.symm),
      ⟨close.named.1.of_same here, close.named.2.of_same there⟩, close.returns⟩
  | ok _ =>
    obtain ⟨here, _, writable, short⟩ := SaveStore.write_eq_ok written
    obtain ⟨there, _⟩ := SaveStore.write_eq_ok (same.symm.trans written)
    have documents : id.Documents state document (.text (Json.write .file (.object document))) :=
      ⟨named, Fault.lift_eq_ok.mp documented, writable, short, rfl⟩
    have first : write id (.object document) (Snapshot.isNamed state) world = .ok () _ :=
      draw_lift_eq_ok.mpr ⟨written, rfl⟩
    have second : write id (.object document) (Snapshot.isNamed state) last = .ok () _ :=
      draw_lift_eq_ok.mpr ⟨same.symm.trans written, rfl⟩
    rw [first, second, here, there]
    exact .ok trivial ⟨SaveStore.held_put.trans SaveStore.held_put.symm,
      ⟨close.named.1.put ⟨_, _, documents⟩, close.named.2.put ⟨_, _, documents⟩⟩, close.returns⟩

theorem alike_delete [Host] {save : Value} (short : id.IsShort)
    (asked : SaveId.ofValue save = .ok id) :
    Alike generator id (fun _ _ => True) (delete save) (delete save) := by
  refine alike_bind (alike_outcome _) ?_
  rintro own _ ⟨rfl, found⟩
  obtain rfl := Except.ok.inj (asked.symm.trans found)
  intro world last close
  rw [get_bind, get_bind]
  rcases SaveStore.delete_short short close.held with ⟨failure, refused, also⟩ | ⟨none, also⟩ |
    ⟨saves, others, deleted, also⟩
  · rw [refused, also]
    exact .error failure close
  · rw [none, also]
    exact .error _ close
  · rw [deleted, also]
    exact .ok trivial ⟨(SaveStore.held_delete deleted).1.trans (SaveStore.held_delete also).1.symm,
      ⟨close.named.1.delete deleted, close.named.2.delete also⟩, close.returns⟩

end Playing

namespace Playing
variable {σ α β : Type} {alive : σ → Prop}

/-- Whatever comes of a computation, something that is known of the dice is still known after it. -/
def Keeps (alive : σ → Prop) (computation : Playing σ α) : Prop :=
  ∀ world after, computation.LeadsTo world after → alive world.dice → alive after.dice

theorem keeps_bind {first : Playing σ α} {next : α → Playing σ β} (head : Keeps alive first)
    (rest : ∀ value, Keeps alive (next value)) : Keeps alive (first >>= next) := by
  intro world after leads known
  rcases leadsTo_bind leads with ⟨failure, failed⟩ | ⟨value, between, ok, later⟩
  · exact head world after (.inr ⟨failure, failed⟩) known
  · exact rest value between after later (head world between (.inl ⟨value, ok⟩) known)

theorem keeps_pure (value : α) : Keeps alive (pure value : Playing σ α) := by
  intro world after leads known
  exact leadsTo_pure leads ▸ known

theorem keeps_outcome (result : Outcome α) : Keeps alive (outcome result : Playing σ α) := by
  intro world after leads known
  exact leadsTo_outcome leads ▸ known

theorem keeps_get : Keeps alive (get : Playing σ (World σ)) := by
  rintro world after (⟨_, ⟨⟩⟩ | ⟨_, ⟨⟩⟩) known
  exact known

theorem keeps_throw (failure : Failure) : Keeps alive (throw failure : Playing σ α) := by
  rintro world after (⟨_, ⟨⟩⟩ | ⟨_, ⟨⟩⟩) known
  exact known

theorem keeps_saves (change : World σ → SaveStore) :
    Keeps alive (modify fun world => { world with saves := change world } : Playing σ Unit) := by
  rintro world after (⟨_, ⟨⟩⟩ | ⟨_, ⟨⟩⟩) known
  exact known

theorem keeps_load [Host] (id : SaveId) : Keeps alive (load id : Playing σ GameState) :=
  keeps_bind keeps_get fun _ => keeps_outcome _

theorem keeps_persist [Host] (state : GameState) : Keeps alive (persist state : Playing σ Unit) := by
  refine keeps_bind (keeps_outcome _) fun document => keeps_bind (keeps_outcome _) fun id => ?_
  intro world after leads known
  exact leadsTo_outcome leads ▸ known

theorem keeps_draw {γ : Type} {generator : Generator σ} {view : α → γ} {verdict : Outcome γ}
    {drawing : Drawing σ α} (ends : generator.EndsAs view verdict drawing) :
    Keeps generator.Returns (draw drawing) := by
  intro world after leads returns
  obtain ⟨dice, living, ⟨value, drawn, _⟩ | ⟨failure, drawn, _⟩⟩ := ends world.dice returns <;>
    obtain ⟨_, led⟩ | ⟨_, led⟩ := leads <;> rw [draw, drawn] at led <;> cases led <;> exact living

theorem keeps_delete [Host] (save : Value) : Keeps alive (delete save : Playing σ Unit) := by
  refine keeps_bind (keeps_outcome _) fun id => keeps_bind keeps_get fun world => ?_
  refine keeps_bind (keeps_outcome _) fun found => ?_
  cases found with
  | none => exact keeps_throw _
  | some saves => exact keeps_saves _

end Playing

end Gamebook
