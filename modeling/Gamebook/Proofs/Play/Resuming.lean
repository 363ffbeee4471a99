import Gamebook.Proofs.Play.Untouched

/-!
What can keep a loaded game from being shown. Its node may be gone, which is foreseen; a condition on
the node may jam, the story that it names may be gone, or it may name more visits than can be counted,
which nothing foresees.
-/
namespace Gamebook

namespace GameMaster
variable {σ : Type} {master : GameMaster σ} {library : Library} {contents : GameState.Contents}
  {failure : Failure} {world : World σ} {save : Value} {id : SaveId} {state : GameState}

theorem resume_of_load [Host] (asked : SaveId.ofValue save = .ok id)
    (found : world.saves.load id = .ok state) :
    master.resume save world = Playing.outcome (master.view state) world :=
  Playing.loaded_bind asked found

theorem progress_of_load [Host] (asked : SaveId.ofValue save = .ok id)
    (found : world.saves.load id = .ok state) : master.progress save world =
      Playing.outcome (do (← master.navigator).progress state) world :=
  Playing.loaded_bind asked found

/-- Loading a save that is there fails for a node that is gone, and otherwise exactly if a condition
on the node jams or the progress is not known, as asking for progress does; only then is the failure
one that nothing foresees. -/
theorem loaded_calls [Host] (plays : master.stories = .ok library.source)
    (asked : SaveId.ofValue save = .ok id) (found : world.saves.load id = .ok state) :
    ∃ contents : GameState.Contents, state = contents.state ∧
      (∀ failure after, master.resume save world = .error failure after ↔
        master.Hides library contents failure ∧ after = world) ∧
      (∀ failure after, master.progress save world = .error failure after ↔
        Navigator.HidesProgress library contents failure ∧ after = world) ∧
      ((∃ failure after, master.resume save world = .error failure after ∧ failure.isForeseen = false) ↔
        ∃ node, library.source.node? contents.node = some node ∧
          ¬ (Navigator.Answers ⟨library.source, master.predicates⟩ contents node ∧
            Navigator.KnowsProgress library contents)) ∧
      ((∃ failure after, master.progress save world = .error failure after ∧
        failure.isForeseen = false) ↔ ¬ Navigator.KnowsProgress library contents) ∧
      (∀ story, library.stories.get? contents.story = some story →
        contents.visits.length ≤ story.nodes.length * 2 ^ 1000 →
          Navigator.KnowsProgress library contents) ∧
      ∀ node, (∀ choice ∈ node.choices, ∀ condition ∈ choice.conditions,
        condition.logic.isWritable = true) →
          Navigator.Answers ⟨library.source, master.predicates⟩ contents node := by
  obtain ⟨document, _, restored⟩ := SaveStore.load_eq_ok.mp found
  obtain ⟨contents, rfl, _, sound⟩ := Snapshot.restore_eq_ok restored
  have resumes failure after : master.resume save world = .error failure after ↔
      master.Hides library contents failure ∧ after = world := by
    rw [resume_of_load asked found, Playing.outcome, draw_lift_eq_error,
      view_eq_error plays sound.keyed]
  have counts failure after : master.progress save world = .error failure after ↔
      Navigator.HidesProgress library contents failure ∧ after = world := by
    rw [progress_of_load asked found, Playing.outcome, draw_lift_eq_error, navigator, plays]
    exact and_congr_left fun _ => Navigator.progress_eq_error rfl
  refine ⟨contents, rfl, resumes, counts, ?_, ?_, fun story listed most => ?_, fun node short => ?_⟩
  · simp only [resumes]
    constructor
    · rintro ⟨_, _, ⟨missing | veils, _⟩, unforeseen⟩
      · cases unforeseen
      · obtain ⟨node, here⟩ := veils.stands
        exact ⟨node, here, (veils_iff here).mp ⟨_, veils⟩⟩
    · rintro ⟨node, here, veiled⟩
      obtain ⟨failure, veils⟩ := (veils_iff here).mpr veiled
      exact ⟨failure, world, ⟨.veiled veils, rfl⟩, veils.not_isForeseen⟩
  · simp only [counts, ← Navigator.hidesProgress_iff]
    constructor
    · rintro ⟨failure, _, ⟨hides, _⟩, _⟩
      exact ⟨failure, hides⟩
    · rintro ⟨failure, hides⟩
      exact ⟨failure, world, ⟨hides, rfl⟩, hides.not_isForeseen⟩
  · exact Navigator.knowsProgress_of_le (lookUp_text_eq_ok.mpr listed) (Nat.le_refl 1000) most
  · exact fun choice offered condition guarded =>
      Condition.not_jams_of_isWritable (short choice offered condition guarded)

open scoped Host in
theorem loaded_calls_oldSave : ∃ failure after,
    harbourMaster.resume (.text "first") oldWorld = .error failure after ∧
      failure.isForeseen = false ∧ ∃ failure after,
        harbourMaster.progress (.text "first") oldWorld = .error failure after ∧
          failure.isForeseen = false := by
  obtain ⟨source, stories⟩ := ok_of_isOk (show harbourMaster.stories.isOk = true by decide +kernel)
  obtain ⟨_, library, _, rfl⟩ := harbourMaster_hasLoaded source stories
  obtain ⟨id, asked⟩ := ok_of_isOk (show (SaveId.ofValue (.text "first")).isOk = true by decide +kernel)
  have loads : (SaveId.ofValue (.text "first") >>= oldWorld.saves.load).isOk = true := by decide +kernel
  rw [asked] at loads
  obtain ⟨state, found⟩ := ok_of_isOk loads
  obtain ⟨contents, _, _, _, escapes, stays, _⟩ := loaded_calls stories asked found
  obtain ⟨failure, after, failed, escaped⟩ := error_of_breaks (show breaks
    (fun failure => !failure.isForeseen) (harbourMaster.resume (.text "first") oldWorld) = true by
      decide +kernel)
  obtain ⟨problem, last, uncounted, astray⟩ := error_of_breaks (show breaks
    (fun failure => !failure.isForeseen) (harbourMaster.progress (.text "first") oldWorld) = true by
      decide +kernel)
  obtain ⟨node, here, _⟩ := escapes.mp ⟨failure, after, failed, by simpa using escaped⟩
  have unknown := stays.mp ⟨problem, last, uncounted, by simpa using astray⟩
  obtain ⟨failure, after, failed, hidden⟩ := escapes.mpr ⟨node, here, fun both => unknown both.2⟩
  exact ⟨failure, after, failed, hidden, stays.mpr unknown⟩

end GameMaster
end Gamebook
