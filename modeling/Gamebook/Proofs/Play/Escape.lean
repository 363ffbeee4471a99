import Gamebook.Proofs.Dice.Modifying
import Gamebook.Proofs.Effect.Breaking
import Gamebook.Proofs.Play.Path
import Gamebook.Proofs.Play.Replay
import Gamebook.Proofs.Play.Showing

/-!
The failures that players are told of, and all others. A choice that is not there, is locked, leads
nowhere or needs a missing stat is refused in a foreseen way. Anything else that keeps a choice from
being taken in an accepted state comes of the seed, an index too long to be shown, the visited nodes,
a condition, a dice formula, the flags or an effect.
-/
namespace Gamebook

/-- The ways in which taking a choice is declared to fail. -/
inductive Failure.IsDeclared : Failure → Prop
  | missing (kind : Named) (identifier : Value) : IsDeclared (.notFound kind identifier)
  | noChoice (node : String) (index : Value) (count : Nat) :
      IsDeclared (.noSuchChoice node index count)
  | locked (node : String) (index : Int) (failed : List FailedCondition) :
      IsDeclared (.conditionsNotMet node index failed)
  | noStat (stat : String) : IsDeclared (.unknownStat stat)

/-- What is wrong with a roll for a stat that is there: its formula cannot be read, or the modifier
that the stat adds has too many digits to be written. -/
inductive RollRequirement.Spoilt (requirement : RollRequirement) (stat : Value) : Failure → Prop
  | formula {failure : Failure}
      (unreadable : DiceFormula.ofText requirement.formulaText = .error failure) :
      Spoilt requirement stat failure
  | modifier {formula : DiceFormula} {added : Int}
      (read : DiceFormula.ofText requirement.formulaText = .ok formula)
      (modified : statModifier stat = .ok added)
      (long : (Number.int (formula.modifier + added)).isWritable = false) :
      Spoilt requirement stat (.fault .badValue)

/-- A selection that is let through and leads to a node. -/
structure Navigator.Opens (navigator : Navigator) (state : GameState) (index : Value)
    (selection : Selection) (target : StoryNode) : Prop where
  seeded : ∃ seed, nextSeed? state = .ok seed
  gated : navigator.gate state index = .ok selection
  leads : navigator.node (.text selection.choice.target) = .ok target

/-- What keeps the conditions of a choice from being checked in an accepted state. -/
inductive Navigator.Unjudged (navigator : Navigator) (state : GameState) (choice : StoryChoice) : Failure → Prop
  | visit (visits : List Value) (visit : Value) (guarded : choice.conditions ≠ [])
      (visited : state.visitedNodes = .known visits) (member : visit ∈ visits)
      (noKey : visit.isKey = false) : Unjudged navigator state choice (.fault .wrongKind)
  | condition (context : Condition.Context) (condition : ConditionDef)
      (seen : Condition.Context.ofState state = .ok context)
      (member : condition ∈ choice.conditions)
      (jams : Condition.Jams navigator.predicates context condition) :
      Unjudged navigator state choice (.fault .badValue)

/-- Every way of failing that is not declared, in the order in which they come up. -/
inductive Navigator.Escapes [Host] (navigator : Navigator) (state : GameState) (index : Value) :
    Failure → Prop
  | longSeed (seed : Value) (given : state.seed.present? = some seed)
      (long : seed.isWritable = false) : Escapes navigator state index (.fault .badValue)
  | seed (seed : Value) (count : Nat) (given : state.seed.present? = some seed)
      (short : seed.isWritable = true) (counted : state.choiceCount = .ok count)
      (unencodable : Text.chars? s!"{seed.asText}-{count}" = none) :
      Escapes navigator state index (.fault .unencodable)
  | longIndex (node : StoryNode) (seeded : ∃ seed, nextSeed? state = .ok seed)
      (here : navigator.currentNode state = .ok node)
      (absent : ∀ selection, choiceAt node index ≠ .ok selection)
      (long : index.isWritable = false) : Escapes navigator state index (.fault .badValue)
  | conditions (selection : Selection) {failure : Failure}
      (seeded : ∃ seed, nextSeed? state = .ok seed)
      (selected : navigator.select state index = .ok selection)
      (unjudged : navigator.Unjudged state selection.choice failure) :
      Escapes navigator state index failure
  | roll (selection : Selection) (target : StoryNode) (before after : List RollRequirement)
      (requirement : RollRequirement) (stats : Dict) (stat : Value) {failure : Failure}
      (opens : navigator.Opens state index selection target)
      (required : selection.choice.rollRequirements = before ++ requirement :: after)
      (rollable : ∀ earlier ∈ before, earlier.verdict state.stats = .ok ())
      (known : state.stats = .known stats)
      (held : stats.get? (.text requirement.stat) = some stat)
      (spoilt : requirement.Spoilt stat failure) :
      Escapes navigator state index failure
  | flags (selection : Selection) (target : StoryNode)
      (opens : navigator.Opens state index selection target)
      (rollable : ∀ requirement ∈ selection.choice.rollRequirements,
        requirement.verdict state.stats = .ok ())
      (deep : Host.cloning < state.flags.depth) :
      Escapes navigator state index (.fault .tooDeep)
  | effect (selection : Selection) (target : StoryNode)
      (opens : navigator.Opens state index selection target)
      (rollable : ∀ requirement ∈ selection.choice.rollRequirements,
        requirement.verdict state.stats = .ok ())
      (shallow : state.flags.depth ≤ Host.cloning)
      (broken : (Effect.run state selection.choice.effects).broken = some .badValue) :
      Escapes navigator state index (.fault .badValue)

section
variable {contents : GameState.Contents}

/-- The part of a state that conditions see can be had unless some visited node is no key. -/
theorem Condition.ofState_eq_error (valid : contents.Valid) {fault : Fault} :
    Context.ofState contents.state = .error fault ↔
      fault = .wrongKind ∧ ∃ visit ∈ contents.visits, visit.isKey = false := by
  have typed : Context.presence (contents.effects.map (·.type)) =
      .ok (Assoc.ofPairs ((contents.effects.map (·.type)).map (·, .bool true))) := by
    refine if_pos (List.all_eq_true.mpr (List.forall_mem_map.mpr fun effect member => ?_))
    obtain ⟨name, named, _⟩ := Value.isFilledText_iff.mp (valid.types effect member)
    rw [named]
    rfl
  have affected : contents.state.statusEffects.entries = .ok contents.effects :=
    Loose.entries_known contents.effects
  have view : Context.ofState contents.state = (do
      let hasStatusEffect ← Context.presence (contents.effects.map (·.type))
      let hasVisited ← Context.presence contents.visits
      return ⟨contents.stats, contents.wallets, contents.inventory, contents.flags,
        contents.effects, hasStatusEffect, contents.visits, hasVisited, .text contents.node,
        (contents.history.map Loose.known).length⟩) := by
    unfold Context.ofState
    rw [affected]
    rfl
  rw [view, typed]
  unfold Context.presence
  split
  · rename_i keys
    refine ⟨nofun, ?_⟩
    rintro ⟨_, visit, member, noKey⟩
    rw [List.all_eq_true.mp keys visit member] at noKey
    cases noKey
  · rename_i strange
    rw [Bool.not_eq_true, List.all_eq_false] at strange
    obtain ⟨visit, member, noKey⟩ := strange
    constructor
    · rintro ⟨⟩
      exact ⟨rfl, visit, member, Bool.not_eq_true _ ▸ noKey⟩
    · rintro ⟨rfl, _⟩
      rfl

theorem RollRequirement.checkFormula_eq_error {requirement : RollRequirement} {stat : Value}
    {added : Int} (modified : statModifier stat = .ok added) {failure : Failure} :
    checkFormula (.text requirement.formulaText) stat = .error failure ↔
      requirement.Spoilt stat failure := by
  constructor
  · intro failed
    rcases bind_eq_error.mp failed with unreadable | ⟨formula, read, rest⟩
    · exact .formula unreadable
    · rw [modified] at rest
      obtain ⟨_, ⟨⟩, rest⟩ := (bind_eq_error.mp rest).resolve_left nofun
      dsimp only at rest
      split at rest
      · cases rest
      · rename_i long
        cases rest
        exact .modifier read modified (Bool.not_eq_true _ ▸ long)
  · rintro (⟨unreadable⟩ | ⟨read, again, long⟩)
    · exact bind_eq_error.mpr (.inl unreadable)
    · have added := Fault.lift_eq_ok.mpr again
      refine bind_eq_error.mpr (.inr ⟨_, read, bind_eq_error.mpr (.inr ⟨_, added, ?_⟩)⟩)
      exact if_neg (Bool.not_eq_true _ ▸ long)

theorem RollRequirement.verdict_eq_error (valid : contents.Valid) {requirement : RollRequirement}
    {failure : Failure} (undeclared : ¬ failure.IsDeclared) :
    requirement.verdict contents.state.stats = .error failure ↔
      ∃ stat, contents.stats.get? (.text requirement.stat) = some stat ∧
        requirement.Spoilt stat failure := by
  have known : requirement.verdict contents.state.stats =
      if contents.stats.contains (.text requirement.stat) then
        checkFormula (.text requirement.formulaText)
          ((contents.stats.get? (.text requirement.stat)).getD .null) >>= fun _ => .ok ()
      else .error (.unknownStat requirement.stat) := by
    have there : contents.state.stats.hasKey (.text requirement.stat) =
        .ok (contents.stats.contains (.text requirement.stat)) := rfl
    unfold verdict
    dsimp only
    rw [there]
    cases contents.stats.contains (.text requirement.stat) <;> rfl
  rw [known, ← Assoc.isSome_get?]
  cases found : contents.stats.get? (.text requirement.stat) with
  | none =>
    constructor
    · rintro ⟨⟩
      exact absurd (.noStat _) undeclared
    · rintro ⟨_, ⟨⟩, _⟩
  | some stat =>
    -- An accepted stat has a modifier, so only the formula is left to be wrong.
    obtain ⟨entry, member, _, same⟩ := Assoc.mem_of_get? found
    obtain ⟨reaches, sized⟩ := Value.isAtLeast_eq_ok.mp (valid.stats entry member)
    obtain ⟨added, modified⟩ := statModifier_eq_ok (same ▸ reaches) (same ▸ sized)
    rw [Option.isSome_some, if_pos rfl, Option.getD_some, bind_eq_error,
      checkFormula_eq_error modified]
    constructor
    · rintro (spoilt | ⟨_, _, ⟨⟩⟩)
      exact ⟨stat, rfl, spoilt⟩
    · rintro ⟨_, ⟨⟩, spoilt⟩
      exact .inl spoilt

namespace Navigator
variable {navigator : Navigator} {now : Timestamp} {index : Value} {failure : Failure}

theorem nextSeed?_eq_error {state : GameState} {count : Nat} (counted : state.choiceCount = .ok count)
    {fault : Fault} : nextSeed? state = .error fault ↔ ∃ seed, state.seed.present? = some seed ∧
      (seed.isWritable = false ∧ fault = .badValue ∨
        seed.isWritable = true ∧ Text.chars? s!"{seed.asText}-{count}" = none ∧
          fault = .unencodable) := by
  unfold nextSeed?
  cases state.seed.present? with
  | none => exact ⟨nofun, by rintro ⟨_, ⟨⟩, _⟩⟩
  | some seed =>
    dsimp only
    constructor
    · intro failed
      split at failed
      · rename_i short
        obtain ⟨_, same, failed⟩ := (bind_eq_error.mp failed).resolve_left (by rw [counted]; nofun)
        obtain rfl := Except.ok.inj (counted.symm.trans same)
        have unmade := (bind_eq_error.mp failed).resolve_right (by rintro ⟨_, _, ⟨⟩⟩)
        unfold Seed.ofText at unmade
        split at unmade
        · cases unmade
        · rename_i unencodable
          cases unmade
          exact ⟨seed, rfl, .inr ⟨short, unencodable, rfl⟩⟩
      · rename_i long
        cases failed
        exact ⟨seed, rfl, .inl ⟨Bool.not_eq_true _ ▸ long, rfl⟩⟩
    · rintro ⟨_, ⟨⟩, ⟨long, rfl⟩ | ⟨short, unencodable, rfl⟩⟩
      · exact if_neg (Bool.not_eq_true _ ▸ long)
      · have unmade : Seed.ofText s!"{seed.asText}-{count}" = .error .unencodable := by
          rw [Seed.ofText, unencodable]
        rw [if_pos short]
        exact bind_eq_error.mpr (.inr ⟨count, counted, bind_eq_error.mpr (.inl unmade)⟩)

theorem node_text_fails (name : String) : FailsBy Failure.IsDeclared (navigator.node (.text name)) := by
  simp only [Navigator.node, Value.isKey, Value.text?, Option.bind_some, if_true]
  cases navigator.stories.node? name with
  | none => exact failsBy_error (.missing .node _)
  | some node => exact failsBy_ok node

/-- Naming a choice that is not there is refused, unless the index is too long to be shown. -/
theorem select_eq_error (undeclared : ¬ failure.IsDeclared) :
    navigator.select contents.state index = .error failure ↔
      failure = .fault .badValue ∧ index.isWritable = false ∧ ∃ node,
        navigator.currentNode contents.state = .ok node ∧
          ∀ selection, choiceAt node index ≠ .ok selection := by
  constructor
  · intro failed
    rcases bind_eq_error.mp failed with missing | ⟨node, here, unnamed⟩
    · exact absurd (node_text_fails contents.node _ missing) undeclared
    rcases choiceAt_cases node index with ⟨selection, chosen⟩ | ⟨count, refused⟩
    · cases chosen.symm.trans unnamed
    · have absent : ∀ selection, choiceAt node index ≠ .ok selection := by
        rw [refused]
        exact fun _ => refuseIndex_ne_ok
      rw [refused, refuseIndex, Failure.showing] at unnamed
      split at unnamed
      · cases unnamed
        exact absurd (.noChoice _ _ _) undeclared
      · rename_i long
        cases unnamed
        exact ⟨rfl, Bool.not_eq_true _ ▸ long, node, here, absent⟩
  · rintro ⟨rfl, long, node, here, absent⟩
    refine bind_eq_error.mpr (.inr ⟨node, here, ?_⟩)
    rcases choiceAt_cases node index with ⟨selection, chosen⟩ | ⟨count, refused⟩
    · exact absurd chosen (absent selection)
    · rw [refused]
      exact if_neg (Bool.not_eq_true _ ▸ long)

theorem availability_eq_error (navigator : Navigator) (valid : contents.Valid)
    {choice : StoryChoice} : navigator.availability choice contents.state = .error failure ↔
      navigator.Unjudged contents.state choice failure := by
  rw [availability_eq_error_iff]
  constructor
  · rintro ⟨guarded, fault, rfl, unseen | ⟨rfl, context, seen, condition, member, jams⟩⟩
    · obtain ⟨rfl, visit, member, noKey⟩ := (Condition.ofState_eq_error valid).mp unseen
      exact .visit _ visit guarded rfl member noKey
    · exact .condition context condition seen member jams
  · rintro (⟨_, visit, guarded, visited, member, noKey⟩ | ⟨context, condition, seen, member, jams⟩)
    · cases visited
      have unseen := (Condition.ofState_eq_error valid).mpr ⟨rfl, visit, member, noKey⟩
      exact ⟨guarded, .wrongKind, rfl, .inl unseen⟩
    · exact ⟨List.ne_nil_of_mem member, .badValue, rfl,
        .inr ⟨rfl, context, seen, condition, member, jams⟩⟩

/-- A choice that is there is refused for its conditions, unless they cannot be looked at. -/
theorem gate_eq_error (valid : contents.Valid) (undeclared : ¬ failure.IsDeclared) :
    navigator.gate contents.state index = .error failure ↔
      navigator.select contents.state index = .error failure ∨
      ∃ selection, navigator.select contents.state index = .ok selection ∧
        navigator.Unjudged contents.state selection.choice failure := by
  refine bind_eq_error.trans (or_congr_right (exists_congr fun selection => and_congr_right fun _ => ?_))
  refine Iff.trans ?_ (availability_eq_error navigator valid)
  refine bind_eq_error.trans (or_iff_left ?_)
  rintro ⟨availability, _, rest⟩
  split at rest
  · cases rest
  · cases rest
    exact undeclared (.locked _ _ _)

theorem arrive_eq_ok {state : GameState} {history : List (Loose ChoiceRecord)} {visits : List Value}
    {effects : List StatusEffect} (logged : state.choicesHistory = .known history)
    (visited : state.visitedNodes = .known visits)
    (affected : state.statusEffects = .known (effects.map .known))
    (lasts : ∀ effect ∈ effects, effect.Lasts 0) (nodeId choiceIndex choiceText target : Value) :
    ∃ recorded moved final, state.recordChoice now nodeId choiceIndex choiceText = .ok recorded ∧
      recorded.moveTo now target = .ok moved ∧ Effect.passTurn moved = .ok final := by
  obtain ⟨recorded, recording, visitsKept, effectsKept⟩ : ∃ recorded,
      state.recordChoice now nodeId choiceIndex choiceText = .ok recorded ∧
        recorded.visitedNodes = .known visits ∧ recorded.statusEffects = .known (effects.map .known) := by
    refine ⟨_, bind_eq_ok.mpr ⟨history, ?_, rfl⟩, visited, affected⟩
    exact Loose.get_eq_ok.mpr logged
  obtain ⟨moved, moving, effectsStay⟩ : ∃ moved, recorded.moveTo now target = .ok moved ∧
      moved.statusEffects = .known (effects.map .known) := by
    simp only [GameState.moveTo, GameState.placeAt, GameState.noteVisit, GameState.hasVisited,
      visitsKept]
    cases target.isAmong visits with
    | true => exact ⟨_, rfl, effectsKept⟩
    | false => exact ⟨_, rfl, effectsKept⟩
  obtain ⟨final, passed⟩ := Effect.passTurn_eq_ok effectsStay lasts
  exact ⟨recorded, moved, final, recording, moving, passed⟩

theorem advance_of_broken [Host] {state : GameState} {selection : Selection} {target : StoryNode}
    {fault : Fault} (copied : state.copy = .ok state)
    (broken : (Effect.run state selection.choice.effects).broken = some fault) :
    advance now selection target state = .error (.fault fault) := by
  unfold advance
  rw [copied]
  refine bind_eq_error.mpr (.inr ⟨state, rfl, ?_⟩)
  dsimp only
  rw [Effect.applyAll_broken, broken]
  rfl

theorem advance_of_run [Host] {state copy : GameState} {selection : Selection} {target : StoryNode}
    {history : List (Loose ChoiceRecord)} {visits : List Value} {effects : List StatusEffect}
    (copied : state.copy = .ok copy)
    (unbroken : (Effect.run copy selection.choice.effects).broken = none)
    (logged : (Effect.run copy selection.choice.effects).state.choicesHistory = .known history)
    (visited : (Effect.run copy selection.choice.effects).state.visitedNodes = .known visits)
    (affected : (Effect.run copy selection.choice.effects).state.statusEffects =
      .known (effects.map .known))
    (lasts : ∀ effect ∈ effects, effect.Lasts 0) :
    ∃ advanced, advance now selection target state = .ok advanced := by
  obtain ⟨stamp, stamped, _⟩ := Effect.applyAll_state now selection.choice.effects copy
  let batch := Effect.applyAll now selection.choice.effects copy
  have log : batch.state.choicesHistory = .known history :=
    (congrArg GameState.choicesHistory stamped).trans logged
  have visitedNodes : batch.state.visitedNodes = .known visits :=
    (congrArg GameState.visitedNodes stamped).trans visited
  have statuses : batch.state.statusEffects = .known (effects.map .known) :=
    (congrArg GameState.statusEffects stamped).trans affected
  obtain ⟨recorded, moved, final, recording, moving, passed⟩ : ∃ recorded moved final,
      batch.state.recordChoice now (.text selection.node.id) (.int selection.index)
          (.text selection.choice.text) = .ok recorded ∧
        recorded.moveTo now (.text target.id) = .ok moved ∧ Effect.passTurn moved = .ok final :=
    arrive_eq_ok log visitedNodes statuses lasts _ _ _ _
  refine ⟨(batch.applied, final), bind_eq_ok.mpr ⟨copy, Fault.lift_eq_ok.mpr copied, ?_⟩⟩
  dsimp only
  rw [Effect.applyAll_broken, unbroken]
  refine bind_eq_ok.mpr ⟨recorded, Fault.lift_eq_ok.mpr recording, ?_⟩
  refine bind_eq_ok.mpr ⟨moved, Fault.lift_eq_ok.mpr moving, ?_⟩
  exact bind_eq_ok.mpr ⟨final, Fault.lift_eq_ok.mpr passed, rfl⟩

theorem advance_of_unbroken [Host] (countable : contents.Countable) {selection : Selection}
    {target : StoryNode} (copied : contents.state.copy = .ok contents.state)
    (unbroken : (Effect.run contents.state selection.choice.effects).broken = none) :
    ∃ advanced, advance now selection target contents.state = .ok advanced := by
  obtain ⟨changed, reached, kept⟩ := Effect.run_countable countable selection.choice.effects
  exact advance_of_run copied unbroken (congrArg GameState.choicesHistory reached)
    (congrArg GameState.visitedNodes reached) (congrArg GameState.statusEffects reached) kept.durations

theorem advance_eq_error [Host] (valid : contents.Valid) {selection : Selection}
    {target : StoryNode} : advance now selection target contents.state = .error failure ↔
      Host.cloning < contents.state.flags.depth ∧ failure = .fault .tooDeep ∨
      contents.state.flags.depth ≤ Host.cloning ∧
        (Effect.run contents.state selection.choice.effects).broken = some .badValue ∧
        failure = .fault .badValue := by
  have copied := GameState.copy_contents_eq contents
  by_cases shallow : contents.state.flags.depth ≤ Host.cloning
  · rw [if_pos shallow] at copied
    have bounded : ¬ Host.cloning < contents.state.flags.depth := Nat.not_lt_of_ge shallow
    cases ended : (Effect.run contents.state selection.choice.effects).broken with
    | none =>
      obtain ⟨advanced, done⟩ : ∃ advanced,
          advance now selection target contents.state = .ok advanced :=
        advance_of_unbroken valid.countable copied ended
      simp [done, bounded]
    | some fault =>
      obtain rfl := Effect.run_broken valid.countable ended
      rw [advance_of_broken copied ended]
      simp [bounded, shallow, eq_comm]
  · rw [if_neg shallow] at copied
    have failed : advance now selection target contents.state = .error (.fault .tooDeep) := by
      unfold advance
      rw [copied]
      rfl
    rw [failed, Except.error.injEq]
    constructor
    · rintro rfl
      exact .inl ⟨Nat.lt_of_not_le shallow, rfl⟩
    · rintro (⟨_, rfl⟩ | ⟨deep, _⟩)
      · rfl
      · exact absurd deep shallow

variable {σ : Type} {generator : Generator σ}

/-- Whether a call fails, and by what, is foretold whatever is drawn. -/
theorem makeChoice_eq_error [Host] {state : GameState} {dice : σ} (returns : generator.Returns dice) :
    (∃ after, navigator.makeChoice generator now state index dice = .error failure after) ↔
      navigator.foretellChoice now state index = .error failure := by
  obtain ⟨after, _, ⟨transition, taken, foretold⟩ | ⟨problem, failed, foretold⟩⟩ :=
    navigator.makeChoice_endsAs generator now state index dice returns
  · rw [taken, foretold]
    exact ⟨by rintro ⟨_, ⟨⟩⟩, nofun⟩
  · rw [failed, foretold]
    constructor
    · rintro ⟨_, ⟨⟩⟩
      rfl
    · rintro ⟨⟩
      exact ⟨after, rfl⟩

theorem Opens.foretellChoice_eq_error [Host] {state : GameState} {selection : Selection}
    {target : StoryNode} (opens : navigator.Opens state index selection target)
    (failed : (do
      selection.choice.rollRequirements.forM (·.verdict state.stats)
      let (applied, next) ← advance now selection target state
      return ⟨selection.node.id, target.id, applied, next, []⟩ : Outcome Transition) =
        .error failure) : navigator.foretellChoice now state index = .error failure := by
  obtain ⟨seed, seeded⟩ := opens.seeded
  refine bind_eq_error.mpr (.inr ⟨seed, Fault.lift_eq_ok.mpr seeded, ?_⟩)
  refine bind_eq_error.mpr (.inr ⟨selection, opens.gated, ?_⟩)
  exact bind_eq_error.mpr (.inr ⟨target, opens.leads, failed⟩)

theorem escapes_of_foretellChoice [Host] (valid : contents.Valid) (undeclared : ¬ failure.IsDeclared)
    (failed : navigator.foretellChoice now contents.state index = .error failure) :
    navigator.Escapes contents.state index failure := by
  -- Each stage either fails or passes a call on to the next, which then may use what has passed.
  rcases bind_eq_error.mp failed with unseeded | ⟨seed, seeded, failed⟩
  · obtain ⟨fault, broken, rfl⟩ := Fault.lift_eq_error.mp unseeded
    have counted : contents.state.choiceCount = .ok (contents.history.map Loose.known).length := rfl
    obtain ⟨seed, given, ⟨long, rfl⟩ | ⟨short, unencodable, rfl⟩⟩ :=
      (nextSeed?_eq_error counted).mp broken
    · exact .longSeed seed given long
    · exact .seed seed _ given short counted unencodable
  have seeded : ∃ seed, nextSeed? contents.state = .ok seed := ⟨seed, Fault.lift_eq_ok.mp seeded⟩
  rcases bind_eq_error.mp failed with locked | ⟨selection, gated, failed⟩
  · rcases (gate_eq_error valid undeclared).mp locked with
      unnamed | ⟨selection, selected, unjudged⟩
    · obtain ⟨rfl, long, node, here, absent⟩ := (select_eq_error undeclared).mp unnamed
      exact .longIndex node seeded here absent long
    · exact .conditions selection seeded selected unjudged
  rcases bind_eq_error.mp failed with missing | ⟨target, leads, failed⟩
  · exact absurd (node_text_fails _ _ missing) undeclared
  have opens : navigator.Opens contents.state index selection target := ⟨seeded, gated, leads⟩
  rcases bind_eq_error.mp failed with spoilt | ⟨_, rolled, failed⟩
  · obtain ⟨before, requirement, after, required, rollable, spoilt⟩ := forM_eq_error.mp spoilt
    obtain ⟨stat, held, spoilt⟩ := (RollRequirement.verdict_eq_error valid undeclared).mp spoilt
    exact .roll selection target before after requirement _ stat opens required rollable rfl held spoilt
  have rollable := forM_eq_ok.mp rolled
  have stuck := (bind_eq_error.mp failed).resolve_right (by rintro ⟨_, _, ⟨⟩⟩)
  rcases (advance_eq_error valid).mp stuck with ⟨deep, rfl⟩ | ⟨shallow, broken, rfl⟩
  · exact .flags selection target opens rollable deep
  · exact .effect selection target opens rollable shallow broken

theorem Escapes.foretellChoice_eq_error [Host] (valid : contents.Valid)
    (undeclared : ¬ failure.IsDeclared) (escapes : navigator.Escapes contents.state index failure) :
    navigator.foretellChoice now contents.state index = .error failure := by
  cases escapes with
  | longSeed seed given long =>
    have counted : contents.state.choiceCount = .ok (contents.history.map Loose.known).length := rfl
    have unseeded := (nextSeed?_eq_error counted).mpr ⟨seed, given, .inl ⟨long, rfl⟩⟩
    exact bind_eq_error.mpr (.inl (Fault.lift_eq_error.mpr ⟨_, unseeded, rfl⟩))
  | seed seed count given short counted unencodable =>
    have unseeded := (nextSeed?_eq_error counted).mpr
      ⟨seed, given, .inr ⟨short, unencodable, rfl⟩⟩
    exact bind_eq_error.mpr (.inl (Fault.lift_eq_error.mpr ⟨_, unseeded, rfl⟩))
  | longIndex node seeded here absent long =>
    obtain ⟨seed, seeded⟩ := seeded
    have unnamed := (select_eq_error undeclared).mpr ⟨rfl, long, node, here, absent⟩
    have locked := (gate_eq_error valid undeclared).mpr (.inl unnamed)
    refine bind_eq_error.mpr (.inr ⟨seed, Fault.lift_eq_ok.mpr seeded, ?_⟩)
    exact bind_eq_error.mpr (.inl locked)
  | conditions selection seeded selected unjudged =>
    obtain ⟨seed, seeded⟩ := seeded
    have locked := (gate_eq_error valid undeclared).mpr (.inr ⟨selection, selected, unjudged⟩)
    refine bind_eq_error.mpr (.inr ⟨seed, Fault.lift_eq_ok.mpr seeded, ?_⟩)
    exact bind_eq_error.mpr (.inl locked)
  | roll selection target before after requirement stats stat opens required rollable known held spoilt =>
    cases known
    have refused := (RollRequirement.verdict_eq_error valid undeclared).mpr ⟨stat, held, spoilt⟩
    have failed := forM_eq_error.mpr ⟨before, requirement, after, required, rollable, refused⟩
    exact opens.foretellChoice_eq_error (bind_eq_error.mpr (.inl failed))
  | flags selection target opens rollable deep =>
    have stuck : advance now selection target contents.state = .error (.fault .tooDeep) :=
      (advance_eq_error valid).mpr (.inl ⟨deep, rfl⟩)
    refine opens.foretellChoice_eq_error (bind_eq_error.mpr (.inr ⟨⟨⟩, forM_eq_ok.mpr rollable, ?_⟩))
    exact bind_eq_error.mpr (.inl stuck)
  | effect selection target opens rollable shallow broken =>
    have stuck : advance now selection target contents.state = .error (.fault .badValue) :=
      (advance_eq_error valid).mpr (.inr ⟨shallow, broken, rfl⟩)
    refine opens.foretellChoice_eq_error (bind_eq_error.mpr (.inr ⟨⟨⟩, forM_eq_ok.mpr rollable, ?_⟩))
    exact bind_eq_error.mpr (.inl stuck)

theorem Escapes.undeclared [Host] {state : GameState}
    (escapes : navigator.Escapes state index failure) : ¬ failure.IsDeclared := by
  cases escapes with
  | roll selection target before after requirement stats stat opens required rollable known held spoilt =>
    cases spoilt with
    | formula unreadable =>
      have other : FailsBy (fun failure => ¬ failure.IsDeclared)
          (DiceFormula.ofText requirement.formulaText) :=
        DiceFormula.ofText_fails (fun _ => nofun) (fun _ => nofun) (fun _ => nofun) _
      exact other _ unreadable
    | modifier => nofun
  | conditions selection seeded selected unjudged => cases unjudged <;> nofun
  | _ => nofun

/-- In an accepted state, a choice fails in a way that is not declared exactly when the seed cannot
be written or encoded, an index that names no choice cannot be shown, its conditions meet a visited
node that is no key, one of them jams, the formula of a roll is spoilt, the flags are nested too
deeply, or the refusal of an effect cannot be put into words. -/
theorem makeChoice_escapes [Host] {state : GameState} (accepted : state.validate = .ok ()) {dice : σ}
    (returns : generator.Returns dice) (undeclared : ¬ failure.IsDeclared) :
    (∃ after, navigator.makeChoice generator now state index dice = .error failure after) ↔
      navigator.Escapes state index failure := by
  obtain ⟨contents, rfl, valid⟩ := GameState.validate_eq_ok.mp accepted
  rw [makeChoice_eq_error returns]
  exact ⟨escapes_of_foretellChoice valid undeclared, Escapes.foretellChoice_eq_error valid undeclared⟩

/-- A story with a formula that is none. -/
def misprint : Dict :=
  [(.text "harbour", .object [("start", .text "pier"), ("nodes", .object [
    ("pier", .object [("choices", .list [
      .object [("text", .text "Set sail"), ("target", .text "sea"), ("roll_requirements", .list [
        .object [("stat", .text "luck"), ("difficulty", .int 10), ("formula", .text "2x6")]])]])]),
    ("sea", .object [("is_terminal", .bool true)])])])]

def ashore : GameState :=
  .create Story.Lighthouse.morning (.text "sailor") (.text "harbour") (.text "pier") (.text "first")
    .null

/-- The failure to read the misprinted formula. -/
def isMisread : Failure → Bool
  | .diceFormula (.text given) => given == "2x6"
  | _ => false

theorem eq_of_isMisread {failure : Failure} (misread : isMisread failure = true) :
    failure = .diceFormula (.text "2x6") := by
  unfold isMisread at misread
  split at misread
  · rw [beq_iff_eq.mp misread]
  · cases misread

open scoped Host in
/-- The story is loaded all the same; that its formula is none shows when it is rolled. -/
theorem makeChoice_escapes_misprint : ∃ library, Library.ofDocument misprint = .ok library ∧
    ashore.validate = .ok () ∧
    Escapes ⟨library.source, []⟩ ashore (.int 0) (.diceFormula (.text "2x6")) := by
  let dice := RandomSource.ofSeed (.number 1)
  let make (library : Library) := makeChoice ⟨library.source, []⟩ RandomSource.generator
    Story.Lighthouse.morning ashore (.int 0) dice
  have accepted : ashore.validate = .ok () := by
    obtain ⟨_, accepted⟩ := ok_of_isOk (show ashore.validate.isOk = true by decide +kernel)
    exact accepted
  have refused : ((Library.ofDocument misprint).toOption.any fun library =>
      breaks isMisread (make library)) = true := by decide +kernel
  cases loaded : Library.ofDocument misprint with
  | error problem =>
    rw [loaded] at refused
    cases refused
  | ok library =>
    rw [loaded] at refused
    obtain ⟨failure, after, failed, misread⟩ := error_of_breaks (show breaks isMisread (make library) = true from refused)
    obtain rfl := eq_of_isMisread misread
    have undeclared : ¬ (Failure.diceFormula (.text "2x6")).IsDeclared := by rintro ⟨⟩
    have returns := RandomSource.returns_ofSeed (.number 1)
    have escapes := (makeChoice_escapes accepted returns undeclared).mp ⟨after, failed⟩
    exact ⟨library, rfl, accepted, escapes⟩

end Navigator

end
end Gamebook
