import Gamebook.Proofs.Effect.Wording
import Gamebook.Proofs.Story.Reporting

/-!
Which operations the effects of a story can use. What the check of a story calls unsupported is
refused wherever it is tried; of what it passes, all but the multiplication of a status effect can
take hold.
-/
namespace Gamebook

namespace Effect
open GameState (Contents)

/-- No effect of a type takes hold by an operation, whatever it is given and wherever it is
tried. -/
def Unsupported (type operation : String) : Prop :=
  ∀ (contents : Contents) (effect : EffectDef), effect.type = type → effect.operation = operation →
    ∃ problem, perform effect contents.state = .error (.effect problem) contents.state

variable {effect : EffectDef} {found : Option Value}

theorem amountOf_cases (context : String) (value : Value) :
    (∃ amount, amountOf context value = .ok amount) ∨
      ∃ problem, amountOf context value = .error (.effect problem) := by
  cases read : amountOf context value with
  | ok amount => exact .inl ⟨amount, rfl⟩
  | error failure =>
    obtain ⟨problem, rfl⟩ := amountOf_eq_error read
    exact .inr ⟨problem, rfl⟩

theorem counted_unknown (unknown : Operation.ofName? effect.operation = none) (floor : Int)
    (context : String) (absent : Value) : ∃ problem,
      counted (nextWhole floor) context absent effect found = .error (.effect problem) := by
  rcases amountOf_cases context effect.value with ⟨amount, read⟩ | ⟨problem, refused⟩
  · exact ⟨.unknownOperation effect.operation, by
      simp [counted, read, nextWhole, combineNamed, unknown, refuse, bind, Except.bind]⟩
  · exact ⟨problem, by simp [counted, refused, bind, Except.bind]⟩

theorem asked_unknown (unknown : Operation.ofName? effect.operation = none) (kind : Target) :
    ∃ problem, asked effect found kind = .error (.effect problem) := by
  cases kind with
  | wallet | inventory | stat =>
    obtain ⟨problem, refused⟩ := counted_unknown unknown _ _ _
    exact ⟨problem, bind_pure_eq_error.mpr refused⟩
  | flag =>
    exact ⟨.unknownOperation effect.operation, by
      simp [asked, nextFlag, unknown, refuse, bind, Except.bind]⟩
  | status => exact ⟨.statusOperation effect.operation, by simp [asked, treatment, unknown, refuse]⟩

theorem perform_refused {contents : Contents} {kind : Target} {problem : EffectProblem}
    (named : effect.type = kind.name)
    (refused : asked effect (contents.lookup? (kind, effect.target)) kind =
      .error (.effect problem)) :
    perform effect contents.state = .error (.effect problem) contents.state := by
  simp [perform_eq_outcome, outcome_eq, demand, Target.ofName?_eq_some.mpr named, refused, Except.map]

theorem unsupported_unknown {type operation : String} (known : (Target.ofName? type).isSome)
    (unknown : Operation.ofName? operation = none) : Unsupported type operation := by
  rintro contents effect rfl rfl
  obtain ⟨kind, known⟩ := Option.isSome_iff_exists.mp known
  obtain ⟨problem, refused⟩ := asked_unknown unknown kind
  exact ⟨problem, perform_refused (Target.ofName?_eq_some.mp known) refused⟩

theorem unsupported_multiplied :
    Unsupported Target.status.name Operation.multiply.name := by
  rintro contents effect named multiplied
  refine ⟨.statusOperation effect.operation, perform_refused named ?_⟩
  simp [asked, treatment, Operation.ofName?_eq_some.mpr multiplied, refuse]

/-- A change by one. -/
def unit (kind : Target) (operation : Operation) : EffectDef :=
  Story.Lighthouse.effect kind.name "rope" operation.name (.int 1)

theorem perform_unit (kind : Target) (operation : Operation)
    (sensible : ¬ (kind = .status ∧ operation = .multiply)) :
    ∃ next, perform (unit kind operation) Story.Lighthouse.opening = .ok true next := by
  have taken : gives id (perform (unit kind operation) Story.Lighthouse.opening) = true := by
    cases kind <;> cases operation <;> first | decide +kernel | simp at sensible
  obtain ⟨_, next, performed, rfl⟩ := ok_of_gives taken
  exact ⟨next, performed⟩

theorem opening_accepted : Story.Lighthouse.opening.validate = .ok () := by
  obtain ⟨_, accepted⟩ := ok_of_isOk (show Story.Lighthouse.opening.validate.isOk = true by decide +kernel)
  exact accepted

/-- Every operation of a known type can take hold in an accepted state, but for those that no state
supports. -/
theorem unsupported_iff {type operation : String} (known : (Target.ofName? type).isSome) :
    (Unsupported type operation ↔ Operation.ofName? operation = none ∨
      type = Target.status.name ∧ operation = Operation.multiply.name) ∧
    (¬ Unsupported type operation → ∃ state effect next, state.validate = .ok () ∧
      effect.type = type ∧ effect.operation = operation ∧
      perform effect state = .ok true next) := by
  have takes (unsaid : ¬ (Operation.ofName? operation = none ∨
      type = Target.status.name ∧ operation = Operation.multiply.name)) :
      ∃ state effect next, state.validate = .ok () ∧ effect.type = type ∧
        effect.operation = operation ∧ perform effect state = .ok true next := by
    obtain ⟨kind, known⟩ := Option.isSome_iff_exists.mp known
    obtain ⟨arithmetic, usable⟩ := Option.ne_none_iff_exists'.mp fun unknown => unsaid (.inl unknown)
    obtain rfl := Target.ofName?_eq_some.mp known
    obtain rfl := Operation.ofName?_eq_some.mp usable
    obtain ⟨next, performed⟩ := perform_unit kind arithmetic fun ⟨status, multiplied⟩ =>
      unsaid (.inr ⟨by rw [status], by rw [multiplied]⟩)
    exact ⟨_, _, next, opening_accepted, rfl, rfl, performed⟩
  have never (said : Operation.ofName? operation = none ∨
      type = Target.status.name ∧ operation = Operation.multiply.name) :
      Unsupported type operation := by
    rcases said with unknown | ⟨rfl, rfl⟩
    · exact unsupported_unknown known unknown
    · exact unsupported_multiplied
  refine ⟨⟨fun unsupported => ?_, never⟩, fun supported => takes fun said => supported (never said)⟩
  -- What takes hold in one state is refused in none but others.
  by_contra unsaid
  obtain ⟨state, effect, next, accepted, named, operated, performed⟩ := takes unsaid
  obtain ⟨contents, rfl, _⟩ := GameState.validate_eq_ok.mp accepted
  obtain ⟨problem, refused⟩ := unsupported contents effect named operated
  cases performed.symm.trans refused

end Effect

namespace Graph
open Effect (Unsupported Target Operation)
variable {nodes : Table StoryNode} {id : String} {node : StoryNode} {found : List Issue}

/-- An operation is reported exactly where no effect can use it, but for the multiplication of a
status effect, which no state supports and no check reports. -/
theorem unknownOperation_iff {story start : Value} (checked : issues story start nodes = .ok found)
    (distinct : nodes.names.Nodup) (member : (id, node) ∈ nodes) {place index : Nat}
    {choice : StoryChoice} {effect : EffectDef} (there : node.choices[place]? = some choice)
    (inside : choice.effects[index]? = some effect)
    (known : (Target.ofName? effect.type).isSome) :
    let reported := Issue.unknownOperation id (operationPath place index) ∈ found
    (reported ↔ Unsupported effect.type effect.operation ∧
      ¬ (effect.type = Target.status.name ∧ effect.operation = Operation.multiply.name)) ∧
    (effect.type = Target.status.name ∧ effect.operation = Operation.multiply.name →
      Unsupported effect.type effect.operation) ∧
    (¬ Unsupported effect.type effect.operation → ∃ state other next, state.validate = .ok () ∧
      other.type = effect.type ∧ other.operation = effect.operation ∧
      Effect.perform other state = .ok true next) := by
  have reported_iff : Issue.unknownOperation id (operationPath place index) ∈ found ↔
      Operation.ofName? effect.operation = none := by
    rw [mem_issues_iff checked distinct member rfl, reports_operation]
    simp [there, inside, known]
  obtain ⟨unsupported, takes⟩ :
      (Unsupported effect.type effect.operation ↔ _) ∧ _ := Effect.unsupported_iff known
  dsimp only
  rw [reported_iff, unsupported]
  refine ⟨?_, .inr, fun supported => takes fun never => supported (unsupported.mp never)⟩
  constructor
  · intro unknown
    refine ⟨.inl unknown, fun ⟨_, multiplied⟩ => ?_⟩
    rw [Operation.ofName?_eq_some.mpr multiplied] at unknown
    cases unknown
  · rintro ⟨unknown | multiplies, other⟩
    · exact unknown
    · exact absurd multiplies other

/-- Twice as seasick, if that were possible. -/
def nausea : EffectDef := Story.Lighthouse.effect "status_effect" "seasick" "multiply" (.int 2)

def sail : StoryChoice :=
  { Story.Lighthouse.choice "sail" "Set sail" "sea" with effects := [nausea] }

def pier : StoryNode := Story.Lighthouse.place "pier" "pier" "The ship is about to leave." [sail]

def crossing : Table StoryNode :=
  [("pier", pier), ("sea", Story.Lighthouse.ending "sea" "sea" "Nothing but water.")]

theorem unknownOperation_iff_crossing : ∃ found,
    issues (.text "harbour") (.text "pier") crossing = .ok found ∧
    Issue.unknownOperation "pier" (operationPath 0 0) ∉ found ∧
    Unsupported nausea.type nausea.operation := by
  obtain ⟨found, checked⟩ : ∃ found, issues (.text "harbour") (.text "pier") crossing = .ok found :=
    ok_of_isOk (by decide +kernel)
  have there : pier.choices[0]? = some sail := rfl
  have inside : sail.effects[0]? = some nausea := rfl
  obtain ⟨reported, never, _⟩ :=
    unknownOperation_iff checked (by decide) (.head _) there inside (by decide)
  exact ⟨found, checked, fun said => (reported.mp said).2 ⟨rfl, rfl⟩, never ⟨rfl, rfl⟩⟩

end Graph
end Gamebook
