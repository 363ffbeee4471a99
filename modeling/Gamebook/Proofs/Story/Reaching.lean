import Gamebook.Proofs.Story.Reporting
import Gamebook.Proofs.Value.Sorting
import Gamebook.Story.Lighthouse

/-!
The search for unreachable nodes. A node may be put on the stack several times, but is expanded once;
all that an expanded node leads to is found or still on the stack, so nothing is missed once the stack
is empty.
-/
namespace Gamebook
namespace Graph

/-- Choices lead from the start to a node, through nodes only. -/
inductive Leads (nodes : Table StoryNode) (start : Value) : String → Prop where
  | start {name : String} : start = .text name → name ∈ nodes.names → Leads nodes start name
  | choice {here : String} {node : StoryNode} {choice : StoryChoice} : Leads nodes start here →
      nodes.get? here = some node → choice ∈ node.choices → choice.target ∈ nodes.names →
      Leads nodes start choice.target

variable {nodes : Table StoryNode} {start : Value} {name : String}

theorem mem_targets {here : String} : name ∈ targets nodes here ↔
    (∃ node, nodes.get? here = some node ∧ ∃ choice ∈ node.choices, choice.target = name) ∧
      name ∈ nodes.names := by
  unfold targets
  cases nodes.get? here with
  | none => simp
  | some node => simp [Assoc.contains_iff_name]

/-- What holds during the search. All nodes that were found or are on the stack are led to, and what
can be found from there is found or on the stack, too. -/
structure Searched (nodes : Table StoryNode) (start : Value) (found stack : List String) : Prop where
  sound : ∀ name ∈ found ++ stack, Leads nodes start name
  begun : ∀ name, start = .text name → name ∈ nodes.names → name ∈ found ++ stack
  closed : ∀ here ∈ found, ∀ name ∈ targets nodes here, name ∈ found ++ stack

namespace Searched
variable {found stack : List String} {id : String}

theorem begin (nodes : Table StoryNode) (start : Value) :
    Searched nodes start [] (start.text?.filter nodes.contains).toList := by
  have first {name : String} : name ∈ (start.text?.filter nodes.contains).toList ↔
      start = .text name ∧ name ∈ nodes.names := by
    rw [Option.mem_toList, Option.filter_eq_some_iff, Assoc.contains_iff_name]
    cases start <;> simp [Value.text?]
  refine ⟨fun name member => ?_, fun name given there => first.mpr ⟨given, there⟩, nofun⟩
  obtain ⟨given, there⟩ := first.mp member
  exact .start given there

theorem pass (searched : Searched nodes start found (id :: stack)) (old : id ∈ found) :
    Searched nodes start found stack := by
  have same {name : String} : name ∈ found ++ id :: stack ↔ name ∈ found ++ stack := by
    simp only [List.mem_append, List.mem_cons]
    constructor
    · rintro (before | rfl | later)
      · exact .inl before
      · exact .inl old
      · exact .inr later
    · exact Or.imp_right .inr
  exact ⟨fun name member => searched.sound name (same.mpr member),
    fun name given there => same.mp (searched.begun name given there),
    fun here before name ahead => same.mp (searched.closed here before name ahead)⟩

/-- A node from the stack is found, and what its choices lead to is put there instead. -/
theorem expand (searched : Searched nodes start found (id :: stack)) :
    Searched nodes start (id :: found) ((targets nodes id).reverse ++ stack) := by
  -- The node only changes sides, so all that the invariant had found or on the stack still is.
  have kept {name : String} (member : name ∈ found ++ id :: stack) :
      name ∈ id :: found ++ ((targets nodes id).reverse ++ stack) := by
    simp only [List.mem_append, List.mem_cons, List.mem_reverse] at member ⊢
    rcases member with before | same | later
    · exact .inl (.inr before)
    · exact .inl (.inl same)
    · exact .inr (.inr later)
  have led : Leads nodes start id := searched.sound id (List.mem_append_right _ (.head _))
  refine ⟨fun name member => ?_, fun name given there => kept (searched.begun name given there),
    fun here before name ahead => ?_⟩
  · simp only [List.mem_append, List.mem_cons, List.mem_reverse] at member
    rcases member with (rfl | before) | ahead | later
    · exact led
    · exact searched.sound name (List.mem_append_left _ before)
    · obtain ⟨⟨node, known, choice, offered, rfl⟩, there⟩ := mem_targets.mp ahead
      exact .choice led known offered there
    · exact searched.sound name (List.mem_append_right _ (.tail _ later))
  · rcases List.mem_cons.mp before with rfl | before
    · exact List.mem_append_right _ (List.mem_append_left _ (List.mem_reverse.mpr ahead))
    · exact kept (searched.closed here before name ahead)

/-- With the stack empty, exactly the nodes that are led to were found. -/
theorem finish (searched : Searched nodes start found []) : name ∈ found ↔ Leads nodes start name := by
  have bare {name : String} : name ∈ found ++ [] ↔ name ∈ found := by rw [List.append_nil]
  constructor
  · intro member
    exact searched.sound name (bare.mpr member)
  · intro leads
    induction leads with
    | start given there => exact bare.mp (searched.begun _ given there)
    | choice _ known offered there ih =>
      refine bare.mp (searched.closed _ ih _ (mem_targets.mpr ⟨?_, there⟩))
      exact ⟨_, known, _, offered, rfl⟩

theorem mem_search (searched : Searched nodes start found stack) :
    name ∈ search nodes found stack ↔ Leads nodes start name := by
  fun_induction search nodes found stack with
  | case1 found => exact searched.finish
  | case2 found id stack old ih => exact ih (searched.pass (List.contains_iff_mem.mp old))
  | case3 found id stack new ih => exact ih searched.expand

end Searched

theorem mem_reachable : name ∈ reachable nodes start ↔ Leads nodes start name :=
  (Searched.begin nodes start).mem_search

theorem Leads.started (leads : Leads nodes start name) :
    ∃ first, start = .text first ∧ first ∈ nodes.names := by
  induction leads with
  | start given there => exact ⟨_, given, there⟩
  | choice _ _ _ _ ih => exact ih

theorem mem_unreachable :
    name ∈ unreachable nodes start ↔ name ∈ nodes.names ∧ ¬Leads nodes start name := by
  simp [unreachable, ← mem_reachable]

theorem unreachable_sorted :
    (unreachable nodes start).Pairwise fun a b => Text.before b a = false :=
  (List.pairwise_mergeSort Text.names_trans Text.names_total _).imp (by simp)

theorem unreachable_nodup (distinct : nodes.names.Nodup) : (unreachable nodes start).Nodup :=
  (List.mergeSort_perm _ _).nodup_iff.mpr (distinct.filter _)

theorem Reports.reachable {id : String} {node : StoryNode} {issue : Issue}
    (reports : Reports nodes id node issue) : (issue.code == "UNREACHABLE_NODE") = false := by
  cases reports <;> rfl

/-- The search comes last, and no other check names nodes as unreachable. -/
theorem filter_unreachable {id : Value} {found : List Issue}
    (checked : issues id start nodes = .ok found) :
    found.filter (·.code == "UNREACHABLE_NODE") = (unreachable nodes start).map .unreachable := by
  obtain ⟨starts, lists, started, each, rfl⟩ := issues_eq_ok.mp checked
  have first : starts.filter (·.code == "UNREACHABLE_NODE") = [] := by
    refine List.filter_eq_nil_iff.mpr fun issue member => ?_
    obtain ⟨_, rfl⟩ := (mem_startIssues started).mp member
    simp [Issue.code]
  have others : lists.flatten.filter (·.code == "UNREACHABLE_NODE") = [] := by
    refine List.filter_eq_nil_iff.mpr fun issue member => ?_
    obtain ⟨_, _, _, read, inside⟩ := (mem_flatten_of_mapM each).mp member
    simp [((mem_nodeIssues read).mp inside).reachable]
  have last : ((unreachable nodes start).map Issue.unreachable).filter
      (·.code == "UNREACHABLE_NODE") = (unreachable nodes start).map .unreachable :=
    List.filter_eq_self.mpr fun issue member => by
      obtain ⟨name, _, rfl⟩ := List.mem_map.mp member
      rfl
  rw [List.filter_append, List.filter_append, first, others, last]
  rfl

/-- The search itself never fails: an error is one of the checks before it. -/
theorem issues_eq_error {id : Value} {failure : Failure} : issues id start nodes = .error failure ↔
    startIssues id start nodes = .error failure ∨
      (∃ starts, startIssues id start nodes = .ok starts) ∧
        nodes.mapM (fun entry => nodeIssues nodes entry.1 entry.2) = .error failure := by
  constructor
  · intro failed
    rcases bind_eq_error.mp failed with started | ⟨starts, started, rest⟩
    · exact .inl started
    · rcases bind_eq_error.mp rest with each | ⟨_, _, done⟩
      · exact .inr ⟨⟨starts, started⟩, each⟩
      · cases done
  · rintro (started | ⟨⟨starts, started⟩, each⟩)
    · exact bind_eq_error.mpr (.inl started)
    · exact bind_eq_error.mpr (.inr ⟨starts, started, bind_eq_error.mpr (.inl each)⟩)

/-- Unreachable nodes are reported once each, in ascending order: exactly those nodes to which no
choices lead from the start. Nothing but the checks before the search can fail. -/
theorem issues_unreachable (nodes : Table StoryNode) (start : Value) (distinct : nodes.names.Nodup) :
    (unreachable nodes start).Nodup ∧
    (unreachable nodes start).Pairwise (fun a b => Text.before b a = false) ∧
    (∀ name, name ∈ unreachable nodes start ↔ name ∈ nodes.names ∧ ¬Leads nodes start name) ∧
    ((∀ name ∈ nodes.names, start ≠ .text name) →
      ∀ name ∈ nodes.names, name ∈ unreachable nodes start) ∧
    (∀ id found, issues id start nodes = .ok found →
      found.filter (·.code == "UNREACHABLE_NODE") = (unreachable nodes start).map .unreachable) ∧
    ∀ id failure, issues id start nodes = .error failure →
      startIssues id start nodes = .error failure ∨
        nodes.mapM (fun entry => nodeIssues nodes entry.1 entry.2) = .error failure := by
  refine ⟨unreachable_nodup distinct, unreachable_sorted, fun name => mem_unreachable, ?_,
    fun id found checked => filter_unreachable checked,
    fun id failure failed => (issues_eq_error.mp failed).imp_right And.right⟩
  intro outside name member
  refine mem_unreachable.mpr ⟨member, fun leads => ?_⟩
  obtain ⟨first, given, there⟩ := leads.started
  exact outside first there given

/-- A cycle, a choice that stays, a choice out of the story, and two nodes that nothing leads to. -/
def islands : Table StoryNode :=
  let place (id : String) (targets : List String) : String × StoryNode :=
    (id, Story.Lighthouse.place id id "" (targets.map (Story.Lighthouse.choice "" "")))
  [place "pier" ["pier", "sea", "fog"], place "cave" ["pier", "attic"], place "sea" ["pier"],
    place "attic" ["cave"]]

theorem leads_islands : Leads islands (.text "pier") name ↔ name = "pier" ∨ name = "sea" := by
  constructor
  · intro leads
    induction leads with
    | start given _ => exact .inl (Value.text.inj given).symm
    | @choice here node choice _ found offered there ih =>
      have ahead : choice.target ∈ targets islands here :=
        mem_targets.mpr ⟨⟨node, found, choice, offered, rfl⟩, there⟩
      rcases ih with rfl | rfl
      · have ahead : choice.target ∈ ["pier", "sea"] := ahead
        simpa using ahead
      · exact .inl (List.mem_singleton.mp ahead)
  · rintro (rfl | rfl)
    · exact .start rfl (by decide)
    · have pier : Leads islands (.text "pier") "pier" := .start rfl (by decide)
      have sea : Leads islands (.text "pier") (Story.Lighthouse.choice "" "" "sea").target :=
        .choice pier rfl (.tail _ (.head _)) (by decide)
      exact sea

theorem islands_unreachable : islands.names.Nodup ∧
    ∀ name, name ∈ unreachable islands (.text "pier") ↔ name = "attic" ∨ name = "cave" := by
  have distinct : islands.names.Nodup := by decide
  refine ⟨distinct, fun name => ?_⟩
  rw [(issues_unreachable islands (.text "pier") distinct).2.2.1 name, leads_islands]
  have inside : name ∈ islands.names ↔
      name = "pier" ∨ name = "cave" ∨ name = "sea" ∨ name = "attic" := by
    simp [islands, Table.names, Assoc.keys]
  rw [inside]
  constructor
  · tauto
  · rintro (rfl | rfl) <;> decide

end Graph
end Gamebook
