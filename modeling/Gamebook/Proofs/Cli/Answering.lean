import Gamebook.Proofs.Cli.Talking
import Gamebook.Proofs.Play.Continuing

/-!
Answers at the console. Each leads to another screen unless it derails the session, and what can
derail one is known for each screen: numbers that are none, names of saves that cannot be used, and
games that cannot go on.
-/
namespace Gamebook.Cli

/-- What is asked for is the number of an item. -/
def Screen.IsNumbered : Screen → Prop
  | .storyMenu | .saveMenu _ | .playing _ => True
  | _ => False

def seedOf (setting : Setting) (console : Console) (answer : List Char) : String :=
  if answer.isEmpty then setting.token console.tokens 8 else String.ofList answer

/-- The save of a game that is started by an answer; its token comes after that for the seed. -/
def saveOf (setting : Setting) (console : Console) (story : Story) (answer : List Char) : String :=
  s!"{story.id}_{setting.token (if answer.isEmpty then console.tokens + 1 else console.tokens) 4}"

/-- What an answer leads to is told in these lines, besides what is the same for all stories. -/
inductive Says [Host] (setting : Setting) (now : Timestamp) (console : Console) :
    Screen → List Char → List Line → Prop
  | stories : Says setting now console .mainMenu ['1'] (storyLines setting)
  | saves {summaries : List SaveSummary}
      (listed : console.world.saves.summaries none none = .ok summaries) :
      Says setting now console .mainMenu ['2']
        (saveLines (summaries.filter fun summary => !summary.isCorrupt))
  | started {story : Story} {player : String} {answer : List Char} {view : GameView}
      {world : World RandomSource}
      (started : setting.master.start now (.text player) (.text story.id)
        (.text (saveOf setting console story answer)) (.text (seedOf setting console answer)) .null
        false console.world = .ok view world) :
      Says setting now console (.seed story player) answer
        (.ok (startedText (seedOf setting console answer) (saveOf setting console story answer)) ::
          gameLines setting view)
  | resumed {listed : List SaveSummary} {summary : SaveSummary} {answer : List Char}
      {view : GameView} {world : World RandomSource}
      (picked : pickFrom listed answer = .ok (.item summary))
      (resumed : setting.master.resume (.text summary.id.text) console.world = .ok view world) :
      Says setting now console (.saveMenu listed) answer (gameLines setting view)
  | moved {view next : GameView} {answer : List Char} {number : Int} {transition : Transition}
      {world : World RandomSource} (digits : Text.allDigits answer = true)
      (read : Text.readInt? answer = some number)
      (chosen : setting.master.choose now view.saveId (.int (number - 1)) console.world =
        .ok (transition, next) world) :
      Says setting now console (.playing view) answer
        (rollLines (transition.rolls.map .ofResult) ++ gameLines setting next)
  | refused {view : GameView} {answer : List Char} {number : Int} {failure : Failure}
      {world : World RandomSource} (digits : Text.allDigits answer = true)
      (read : Text.readInt? answer = some number)
      (refused : setting.master.choose now view.saveId (.int (number - 1)) console.world =
        .error failure world)
      (told : failure.isUnavailableChoice = true) :
      Says setting now console (.playing view) answer [refusalLine failure]

/-- What ends a session otherwise than by its lines coming to an end, by what was asked and
answered. -/
inductive Derails [Host] (setting : Setting) (library : Library) (now : Timestamp)
    (console : Console) : Screen → List Char → Failure → Prop
  /-- Digits that make no number where the number of an item is asked for. -/
  | numeral {screen : Screen} {answer : List Char} (numbered : screen.IsNumbered)
      (unreadable : IsUnreadable answer) :
      Derails setting library now console screen answer (.fault .badValue)
  /-- A number in a save that is too large when the saves are listed. -/
  | list {id : SaveId} {entry : Entry} {contents : GameState.Contents}
      (held : console.world.saves.held id = some entry) (keeps : id.Keeps contents entry)
      (large : ¬ contents.Sized) :
      Derails setting library now console .mainMenu ['2'] (.fault .tooLarge)
  /-- A name of a save under which no game can be started. -/
  | start {story : Story} {player : String} {answer : List Char} {failure : Failure}
      (rejects : console.world.saves.Rejects (saveOf setting console story answer) failure) :
      Derails setting library now console (.seed story player) answer failure
  /-- A game that was started where a condition jams. -/
  | outset {story : Story} {player : String} {answer : List Char} {contents : GameState.Contents}
      {after : World RandomSource}
      (established : setting.master.establish now (.text player) (.text story.id)
        (.text (saveOf setting console story answer)) (.text (seedOf setting console answer)) .null
        false console.world = .ok contents.state after)
      (jammed : Navigator.Jammed ⟨library.source, setting.master.predicates⟩ contents) :
      Derails setting library now console (.seed story player) answer (.fault .badValue)
  /-- A game that was saved where a condition jams. -/
  | standstill {listed : List SaveSummary} {summary : SaveSummary} {answer : List Char}
      {contents : GameState.Contents} (picked : pickFrom listed answer = .ok (.item summary))
      (loaded : console.world.saves.load summary.id = .ok contents.state)
      (jammed : Navigator.Jammed ⟨library.source, setting.master.predicates⟩ contents) :
      Derails setting library now console (.saveMenu listed) answer (.fault .badValue)
  /-- A game that is kept from going on otherwise than because a choice is not available. -/
  | choice {view : GameView} {answer : List Char} {number : Int} {id : SaveId} {entry : Entry}
      {contents : GameState.Contents} {failure : Failure} (digits : Text.allDigits answer = true)
      (read : Text.readInt? answer = some number) (named : view.saveId = .text id.text)
      (held : console.world.saves.held id = some entry) (keeps : id.Keeps contents entry)
      (inPlay : contents.InPlay library)
      (blocks : id.Blocks contents ⟨library.source, setting.master.predicates⟩
        setting.master.generator now (.int (number - 1)) console.world.dice failure) :
      Derails setting library now console (.playing view) answer failure
  /-- A line that cannot be printed. -/
  | line {screen : Screen} {answer : List Char} {lines : List Line} {fault : Fault}
      (telling : Says setting now console screen answer lines) (stops : firstFault lines = some fault) :
      Derails setting library now console screen answer (.fault fault)

/-- The setting of a session with the stories of a library. -/
structure Setting.Offers (setting : Setting) (library : Library) : Prop where
  master : setting.master.Offers library
  stories : ∀ story ∈ setting.stories, library.story (.text story.id) = .ok story
  tokens : ∀ call bytes, Text.isPlain (setting.token call bytes) = true

/-- Whether a screen refers to what is there. A game that is played has been shown. -/
def Screen.Fits [Host] (setting : Setting) (library : Library) (saves : SaveStore) : Screen → Prop
  | .name story => library.story (.text story.id) = .ok story
  | .seed story player => library.story (.text story.id) = .ok story ∧ Text.IsName player
  | .saveMenu listed => ∀ summary ∈ listed, ∃ state, saves.load summary.id = .ok state
  | .playing view => GameMaster.Shows saves view ∧ firstFault (gameLines setting view) = none
  | _ => True

/-- What every answer of a session leaves true. -/
structure Fits [Host] (setting : Setting) (library : Library) (console : Console) (screen : Screen) :
    Prop where
  inPlay : console.world.saves.InPlay library
  screen : screen.Fits setting library console.world.saves

variable {setting : Setting} {library : Library} {now : Timestamp} {console after : Console}
  {screen next : Screen} {answer : List Char} {failure : Failure}

/-- What only tells something fits as soon as its screen does. -/
theorem Tells.fits [Host] {talking : Talking Screen} {lines : List Line}
    (tells : Tells talking lines screen) (inPlay : console.world.saves.InPlay library)
    (asked : firstFault lines = none → screen.Fits setting library console.world.saves)
    (ok : talking console = .ok next after) : Fits setting library after next := by
  obtain ⟨printable, rfl, same⟩ := tells.of_ok ok
  exact ⟨same ▸ inPlay, same ▸ asked printable⟩

theorem tells_openSaveMenu (summaries : List SaveSummary) :
    let saves := summaries.filter fun summary => !summary.isCorrupt
    Tells (if saves.isEmpty then do
        Talking.print "No saved games found."
        openMainMenu
      else do
        Talking.say (menuLines "Saved Games" (saves.filterMap saveLabel))
        Talking.prompt savePrompt
        return .saveMenu saves)
      (saveLines saves) (if saves.isEmpty then .mainMenu else .saveMenu saves) := by
  intro saves
  split
  · rename_i none
    rw [List.isEmpty_iff.mp none]
    exact (tells_back (by decide +kernel)).congr (by decide +kernel)
  · exact tells_ask _ (by decide +kernel) _

theorem openSaveMenu_failsWith [Host] : FailsWith openSaveMenu console failure ↔
    console.world.saves.summaries none none = .error failure ∨
      ∃ summaries fault, console.world.saves.summaries none none = .ok summaries ∧
        firstFault (saveLines (summaries.filter fun summary => !summary.isCorrupt)) = some fault ∧
        failure = .fault fault :=
  failsWith_lift_tells _ fun summaries => ⟨_, tells_openSaveMenu summaries⟩

theorem openSaveMenu_fits [Host] (inPlay : console.world.saves.InPlay library)
    (ok : openSaveMenu console = .ok next after) : Fits setting library after next := by
  change (liftExcept (console.world.saves.summaries none none) >>= _ : Talking Screen) console = _ at ok
  obtain ⟨summaries, between, found, told⟩ := draw_bind_eq_ok.mp ok
  obtain ⟨listed, rfl⟩ := draw_lift_eq_ok.mp found
  refine (tells_openSaveMenu summaries).fits inPlay (fun _ => ?_) told
  split
  · trivial
  intro summary member
  obtain ⟨inside, sound⟩ := List.mem_filter.mp member
  exact SaveStore.load_of_summaries listed inside (by simpa using sound)

theorem screenOf_fits [Host] {saves : SaveStore} {view : GameView}
    (shows : GameMaster.Shows saves view) (printable : firstFault (gameLines setting view) = none) :
    (screenOf view).Fits setting library saves := by
  unfold screenOf
  split
  · trivial
  · exact ⟨shows, printable⟩

theorem showGame_fits [Host] {view : GameView} (inPlay : console.world.saves.InPlay library)
    (shows : GameMaster.Shows console.world.saves view)
    (ok : showGame setting view console = .ok next after) : Fits setting library after next :=
  (tells_showGame setting view).fits inPlay (screenOf_fits shows) ok

section mainMenu

theorem answerMainMenu_failsWith [Host] (inPlay : console.world.saves.InPlay library) :
    FailsWith (answerMainMenu setting answer) console failure ↔
      Derails setting library now console .mainMenu answer failure := by
  unfold answerMainMenu
  constructor
  · intro failed
    split at failed
    · rename_i first
      subst first
      obtain ⟨fault, stops, rfl⟩ := (tells_openStoryMenu setting).failsWith.mp failed
      exact .line .stories stops
    split at failed
    · rename_i second
      subst second
      rcases openSaveMenu_failsWith.mp failed with
        unlisted | ⟨summaries, fault, listed, stops, rfl⟩
      · obtain ⟨rfl, id, entry, contents, held, keeps, large⟩ :=
          inPlay.own.summaries_eq_error.mp unlisted
        exact .list held keeps large
      · exact .line (.saves listed) stops
    split at failed
    · exact absurd failed (tells_leave.not_fails rfl)
    · exact absurd failed ((tells_back (by decide +kernel)).not_fails rfl)
  · intro derails
    cases derails with
    | numeral numbered => cases numbered
    | list held keeps large =>
      refine openSaveMenu_failsWith.mpr (.inl ?_)
      exact inPlay.own.summaries_eq_error.mpr ⟨rfl, _, _, _, held, keeps, large⟩
    | line telling stops =>
      cases telling with
      | stories => exact (tells_openStoryMenu setting).failsWith.mpr ⟨_, stops, rfl⟩
      | saves listed => exact openSaveMenu_failsWith.mpr (.inr ⟨_, _, listed, stops, rfl⟩)

theorem answerMainMenu_fits [Host] (inPlay : console.world.saves.InPlay library)
    (ok : answerMainMenu setting answer console = .ok next after) :
    Fits setting library after next := by
  unfold answerMainMenu at ok
  split at ok
  · refine (tells_openStoryMenu setting).fits inPlay (fun _ => ?_) ok
    split <;> trivial
  split at ok
  · exact openSaveMenu_fits inPlay ok
  split at ok
  · exact tells_leave.fits inPlay (fun _ => trivial) ok
  · exact (tells_back (by decide +kernel)).fits inPlay (fun _ => trivial) ok

end mainMenu

/-- From a menu, digits that make no number are all that nothing can be picked with. -/
theorem unpicked_derails [Host] {α : Type} {items : List α} (numbered : screen.IsNumbered)
    (unpicked : pickFrom items answer = .error failure) :
    Derails setting library now console screen answer failure := by
  obtain ⟨unreadable, rfl⟩ := pickFrom_eq_error.mp unpicked
  exact .numeral numbered unreadable

section storyMenu

theorem answerStoryMenu_failsWith [Host] :
    FailsWith (answerStoryMenu setting answer) console failure ↔
    Derails setting library now console .storyMenu answer failure := by
  have tells : FailsWith (answerStoryMenu setting answer) console failure ↔
      pickFrom setting.stories answer = .error failure := by
    refine (failsWith_lift_tells (fun _ => []) fun pick => ?_).trans
      (or_iff_left (by rintro ⟨_, _, _, ⟨⟩, _⟩))
    cases pick with
    | cancelled => exact ⟨_, tells_openMainMenu⟩
    | item story => exact ⟨_, (tells_print _ _).bind_printable (by decide +kernel) (tells_pure _)⟩
    | invalid => exact ⟨_, tells_askAgain _ (by decide +kernel) _⟩
  rw [tells]
  constructor
  · exact unpicked_derails trivial
  · intro derails
    cases derails with
    | numeral _ unreadable => exact pickFrom_eq_error.mpr ⟨unreadable, rfl⟩
    | line telling => cases telling

theorem answerStoryMenu_fits [Host] (offers : setting.Offers library)
    (inPlay : console.world.saves.InPlay library)
    (ok : answerStoryMenu setting answer console = .ok next after) :
    Fits setting library after next := by
  obtain ⟨pick, between, found, told⟩ := draw_bind_eq_ok.mp ok
  obtain ⟨picked, rfl⟩ := draw_lift_eq_ok.mp found
  cases pick with
  | cancelled => exact tells_openMainMenu.fits inPlay (fun _ => trivial) told
  | item story =>
    refine Tells.fits ((tells_print _ _).bind (tells_pure (Screen.name story))) inPlay (fun _ => ?_) told
    exact offers.stories story (mem_of_pickFrom picked)
  | invalid => exact (tells_askAgain _ (by decide +kernel) .storyMenu).fits inPlay (fun _ => trivial) told

end storyMenu

section newGame
variable {story : Story} {player : String}

theorem tells_answerName (story : Story) (answer : List Char) :
    Tells (answerName story answer) []
      (.seed story (if answer.isEmpty then "player" else String.ofList answer)) :=
  (tells_print _ _).bind_printable (by decide +kernel) (tells_pure _)

theorem answerName_fits [Host] (found : library.story (.text story.id) = .ok story)
    (plain : Text.isPlain (String.ofList answer) = true) (inPlay : console.world.saves.InPlay library)
    (ok : answerName story answer console = .ok next after) : Fits setting library after next := by
  refine (tells_answerName story answer).fits inPlay (fun _ => ⟨found, ?_⟩) ok
  split
  · exact ⟨by decide, by decide +kernel⟩
  · rename_i filled
    refine ⟨fun blank => filled ?_, plain⟩
    rw [String.ofList_eq_empty_iff.mp blank]
    rfl

theorem answerSeed_eq [Host] : ∃ tokens, answerSeed setting now story player answer console = (do
    let view ← Talking.play (setting.master.start now (.text player) (.text story.id)
      (.text (saveOf setting console story answer)) (.text (seedOf setting console answer)) .null false)
    Talking.print (startedText (seedOf setting console answer) (saveOf setting console story answer))
    showGame setting view : Talking Screen) { console with tokens := tokens } := by
  unfold answerSeed saveOf seedOf
  split
  · exact ⟨_, rfl⟩
  · exact ⟨_, rfl⟩

theorem tells_started (text : String) (view : GameView) :
    Tells (do Talking.print text; showGame setting view) (.ok text :: gameLines setting view)
      (screenOf view) :=
  (tells_print text _).bind (tells_showGame setting view)

theorem seedOf_plain (offers : setting.Offers library)
    (plain : Text.isPlain (String.ofList answer) = true) :
    Text.isPlain (seedOf setting console answer) = true := by
  unfold seedOf
  split
  · exact offers.tokens console.tokens 8
  · exact plain

/-- A save whose name starts with that of a story only has a name if the story has one. -/
theorem filled_of_saveOf {id : SaveId} (named : id.text = saveOf setting console story answer) :
    story.id ≠ "" := by
  intro blank
  have bare (token : String) : (s!"{story.id}_{token}").toList = '_' :: token.toList := by
    rw [blank, String.toList_append, String.toList_append]
    rfl
  have valid := id.valid
  rw [named, saveOf, bare, SaveId.isValid_underscore] at valid
  cases valid

theorem answerSeed_failsWith [Host] (offers : setting.Offers library)
    (found : library.story (.text story.id) = .ok story) (aware : now.IsAware)
    (named : Text.IsName player) (plain : Text.isPlain (String.ofList answer) = true)
    (inPlay : console.world.saves.InPlay library) :
    FailsWith (answerSeed setting now story player answer) console failure ↔
      Derails setting library now console (.seed story player) answer failure := by
  obtain ⟨tokens, same⟩ := answerSeed_eq
  have starts : FailsWith (setting.master.start now (.text player) (.text story.id)
      (.text (saveOf setting console story answer)) (.text (seedOf setting console answer)) .null
        false) console.world failure ↔ _ :=
    GameMaster.start_failsWith offers.master found aware named (seedOf_plain offers plain)
      (fun _ => filled_of_saveOf) inPlay
  unfold FailsWith
  rw [same]
  refine failsWith_bind.trans ⟨?_, fun derails => ?_⟩
  · rintro (unstarted | ⟨view, between, played, failed⟩)
    · have unstarted := Talking.failsWith_play.mp unstarted
      rcases starts.mp unstarted with rejects | ⟨rfl, contents, after, established, jammed⟩
      · exact .start rejects
      · exact .outset established jammed
    · obtain ⟨world, started, rfl⟩ := Talking.play_eq_ok.mp played
      obtain ⟨fault, stops, rfl⟩ := (tells_started _ view).failsWith.mp failed
      exact .line (.started started) stops
  · cases derails with
    | numeral numbered => cases numbered
    | start rejects => exact .inl (Talking.failsWith_play.mpr (starts.mpr (.inl rejects)))
    | outset established jammed =>
      refine .inl (Talking.failsWith_play.mpr (starts.mpr (.inr ?_)))
      exact ⟨rfl, _, _, established, jammed⟩
    | line telling stops =>
      cases telling with
      | started started =>
        refine .inr ⟨_, _, Talking.play_eq_ok.mpr ⟨_, started, rfl⟩, ?_⟩
        exact (tells_started _ _).failsWith.mpr ⟨_, stops, rfl⟩

theorem answerSeed_fits [Host] (offers : setting.Offers library)
    (found : library.story (.text story.id) = .ok story) (aware : now.IsAware)
    (named : Text.IsName player) (plain : Text.isPlain (String.ofList answer) = true)
    (inPlay : console.world.saves.InPlay library)
    (ok : answerSeed setting now story player answer console = .ok next after) :
    Fits setting library after next := by
  obtain ⟨tokens, same⟩ := answerSeed_eq
  rw [same] at ok
  obtain ⟨view, between, played, told⟩ := draw_bind_eq_ok.mp ok
  obtain ⟨world, started, rfl⟩ := Talking.play_eq_ok.mp played
  obtain ⟨kept, shows⟩ := GameMaster.start_keeps offers.master found aware named.plain
    (seedOf_plain offers plain) inPlay started
  obtain ⟨_, between, said, told⟩ := draw_bind_eq_ok.mp told
  obtain ⟨_, rfl, same⟩ := (tells_print _ _).of_ok said
  exact showGame_fits (same ▸ kept) (same ▸ shows) told

end newGame

section saveMenu
variable {listed : List SaveSummary}

theorem answerSaveMenu_failsWith [Host] (offers : setting.Offers library)
    (inPlay : console.world.saves.InPlay library)
    (loads : ∀ summary ∈ listed, ∃ state, console.world.saves.load summary.id = .ok state) :
    FailsWith (answerSaveMenu setting listed answer) console failure ↔
      Derails setting library now console (.saveMenu listed) answer failure := by
  refine failsWith_lift_bind.trans ⟨?_, fun derails => ?_⟩
  · rintro (unpicked | ⟨pick, picked, failed⟩)
    · exact unpicked_derails trivial unpicked
    cases pick with
    | cancelled => exact absurd failed (tells_openMainMenu.not_fails rfl)
    | invalid => exact absurd failed ((tells_askAgain _ (by decide +kernel) _).not_fails rfl)
    | item summary =>
      obtain ⟨state, loaded⟩ := loads summary (mem_of_pickFrom picked)
      have jams (problem : Failure) : FailsWith _ console.world problem ↔ _ :=
        GameMaster.resume_failsWith offers.master inPlay loaded
      rcases failsWith_bind.mp failed with unresumed | ⟨result, between, tried, failed⟩
      · obtain ⟨rfl, contents, rfl, jammed⟩ := (jams _).mp (Talking.failsWith_attempt.mp unresumed).1
        exact .standstill picked loaded jammed
      rcases Talking.attempt_eq_ok tried with
        ⟨view, world, rfl, resumed, rfl⟩ | ⟨problem, world, rfl, refused, told, rfl⟩
      · obtain ⟨fault, stops, rfl⟩ := (tells_showGame setting view).failsWith.mp failed
        exact .line (.resumed picked resumed) stops
      · obtain ⟨rfl, _⟩ := (jams problem).mp ⟨world, refused⟩
        cases told
  · cases derails with
    | numeral _ unreadable => exact .inl (pickFrom_eq_error.mpr ⟨unreadable, rfl⟩)
    | standstill picked loaded jammed =>
      refine .inr ⟨_, picked, failsWith_bind.mpr (.inl (Talking.failsWith_attempt.mpr ⟨?_, rfl⟩))⟩
      exact (GameMaster.resume_failsWith offers.master inPlay loaded).mpr ⟨rfl, _, rfl, jammed⟩
    | line telling stops =>
      cases telling with
      | resumed picked resumed =>
        refine .inr ⟨_, picked, failsWith_bind.mpr (.inr ⟨_, _, Talking.attempt_of_ok resumed, ?_⟩)⟩
        exact (tells_showGame setting _).failsWith.mpr ⟨_, stops, rfl⟩

theorem answerSaveMenu_fits [Host] (offers : setting.Offers library)
    (inPlay : console.world.saves.InPlay library)
    (loads : ∀ summary ∈ listed, ∃ state, console.world.saves.load summary.id = .ok state)
    (ok : answerSaveMenu setting listed answer console = .ok next after) :
    Fits setting library after next := by
  obtain ⟨pick, between, found, told⟩ := draw_bind_eq_ok.mp ok
  obtain ⟨picked, rfl⟩ := draw_lift_eq_ok.mp found
  cases pick with
  | cancelled => exact tells_openMainMenu.fits inPlay (fun _ => trivial) told
  | invalid =>
    exact (tells_askAgain _ (by decide +kernel) (.saveMenu listed)).fits inPlay (fun _ => loads) told
  | item summary =>
    obtain ⟨result, between, tried, told⟩ := draw_bind_eq_ok.mp told
    rcases Talking.attempt_eq_ok tried with
      ⟨view, world, rfl, resumed, rfl⟩ | ⟨problem, world, rfl, refused, foreseen, rfl⟩
    · obtain ⟨rfl, shows⟩ := GameMaster.resume_keeps inPlay resumed
      exact showGame_fits inPlay shows told
    · obtain ⟨state, loaded⟩ := loads summary (mem_of_pickFrom picked)
      obtain ⟨rfl, _⟩ :=
        (GameMaster.resume_failsWith offers.master inPlay loaded).mp ⟨world, refused⟩
      cases foreseen

end saveMenu

section playing
variable {view : GameView}

/-- No answer that is made of digits is one of the words for leaving a game. After a choice the game
is shown that it led to, or the one there was. -/
theorem answerPlaying_digits [Host] (digits : Text.allDigits answer = true) :
    ∃ report : Except Failure (Transition × GameView) → Talking Screen,
      answerPlaying setting now view answer = (do
        let index ← liftExcept (numberOf answer)
        report (← Talking.attempt Failure.isUnavailableChoice
          (setting.master.choose now view.saveId (.int (index - 1))))) ∧
      (∀ transition next, Tells (report (.ok (transition, next)))
        (rollLines (transition.rolls.map .ofResult) ++ gameLines setting next) (screenOf next)) ∧
      ∀ failure, Tells (report (.error failure)) ([refusalLine failure] ++ gameLines setting view)
        (screenOf view) := by
  have other (c : Char) (letter : Text.isDigit c = false) : answer ≠ [c] := by
    rintro rfl
    rw [Text.allDigits, List.all_cons, letter] at digits
    cases digits
  have stays : ¬ (decide (answer = ['q']) || decide (answer = ['Q'])) = true := by
    simp [other 'q' (by decide), other 'Q' (by decide)]
  have goesOn : ¬ (decide (answer = ['m']) || decide (answer = ['M'])) = true := by
    simp [other 'm' (by decide), other 'M' (by decide)]
  refine ⟨_, (if_neg stays).trans ((if_neg goesOn).trans (if_pos digits)), ?_, ?_⟩
  · exact fun transition next => (tells_say _).bind (tells_showGame setting next)
  · exact fun failure => (tells_print _ _).bind (tells_showGame setting view)

theorem tells_answerPlaying [Host] (noDigits : Text.allDigits answer = false)
    (printable : firstFault (gameLines setting view) = none) :
    ∃ screen, Tells (answerPlaying setting now view answer) [] screen ∧
      ∀ library saves, GameMaster.Shows saves view → screen.Fits setting library saves := by
  unfold answerPlaying
  split
  · exact ⟨_, tells_leave, fun _ _ _ => trivial⟩
  split
  · exact ⟨_, tells_openMainMenu, fun _ _ _ => trivial⟩
  rw [if_neg (by rw [noDigits]; decide)]
  refine ⟨_, (tells_print _ _).bind_printable (by decide +kernel) ?_,
    fun _ _ shows => screenOf_fits shows printable⟩
  exact (tells_showGame setting view).congr printable

theorem not_derails_playing [Host] (noDigits : Text.allDigits answer = false) :
    ¬ Derails setting library now console (.playing view) answer failure := by
  intro derails
  cases derails with
  | numeral _ unreadable => cases noDigits.symm.trans unreadable.digits
  | choice digits => cases noDigits.symm.trans digits
  | line telling =>
    cases telling with
    | moved digits => cases noDigits.symm.trans digits
    | refused digits => cases noDigits.symm.trans digits

theorem answerPlaying_failsWith [Host] (offers : setting.Offers library) (aware : now.IsAware)
    (inPlay : console.world.saves.InPlay library) (shows : GameMaster.Shows console.world.saves view)
    (printable : firstFault (gameLines setting view) = none) :
    FailsWith (answerPlaying setting now view answer) console failure ↔
      Derails setting library now console (.playing view) answer failure := by
  cases digits : Text.allDigits answer with
  | false =>
    obtain ⟨screen, told, _⟩ := tells_answerPlaying digits printable
    exact iff_of_false (told.not_fails rfl) (not_derails_playing digits)
  | true =>
    obtain ⟨report, same, taken, refused⟩ := answerPlaying_digits digits
    -- The game could be printed when it was shown before, so only the refusal can be at fault.
    have repeated (failure : Failure) :
        firstFault ([refusalLine failure] ++ gameLines setting view) =
          firstFault [refusalLine failure] := by
      rw [firstFault_append, printable, Option.or_none]
    obtain ⟨id, entry, named, held⟩ := shows
    obtain ⟨contents, keeps, plays⟩ := inPlay id entry held
    rw [same, failsWith_lift_bind, numberOf_eq_error digits]
    constructor
    · rintro (⟨unreadable, rfl⟩ | ⟨number, read, failed⟩)
      · exact .numeral trivial unreadable
      have read := numberOf_eq_ok.mp read
      rcases failsWith_bind.mp failed with unchosen | ⟨result, between, attempted, failed⟩
      · have blocked := Talking.failsWith_attempt.mp unchosen
        rw [named, GameMaster.choose_failsWith offers.master aware held keeps plays] at blocked
        exact .choice digits read named held keeps plays blocked
      rcases Talking.attempt_eq_ok attempted with
        ⟨⟨transition, reached⟩, world, rfl, chosen, rfl⟩ |
          ⟨problem, world, rfl, unmoved, told, rfl⟩
      · obtain ⟨fault, stops, rfl⟩ := (taken transition reached).failsWith.mp failed
        exact .line (.moved digits read chosen) stops
      · obtain ⟨fault, stops, rfl⟩ := (refused problem).failsWith.mp failed
        rw [repeated] at stops
        exact .line (.refused digits read unmoved told) stops
    · intro derails
      cases derails with
      | numeral _ unreadable => exact .inl ⟨unreadable, rfl⟩
      | @choice _ _ number _ _ _ _ _ read named held keeps plays blocks =>
        refine .inr ⟨number, numberOf_eq_ok.mpr read, failsWith_bind.mpr (.inl ?_)⟩
        rw [Talking.failsWith_attempt, named,
          GameMaster.choose_failsWith offers.master aware held keeps plays]
        exact blocks
      | line telling stops =>
        cases telling with
        | moved _ read chosen =>
          refine .inr ⟨_, numberOf_eq_ok.mpr read,
            failsWith_bind.mpr (.inr ⟨_, _, Talking.attempt_of_ok chosen, ?_⟩)⟩
          exact (taken _ _).failsWith.mpr ⟨_, stops, rfl⟩
        | refused _ read unmoved told =>
          have attempted : Talking.attempt Failure.isUnavailableChoice _ console = _ :=
            (Talking.attempt_of_error unmoved).trans (if_pos told)
          refine .inr ⟨_, numberOf_eq_ok.mpr read, failsWith_bind.mpr (.inr ⟨_, _, attempted, ?_⟩)⟩
          exact (refused _).failsWith.mpr ⟨_, (repeated _).trans stops, rfl⟩

theorem answerPlaying_fits [Host] (offers : setting.Offers library) (aware : now.IsAware)
    (inPlay : console.world.saves.InPlay library) (shows : GameMaster.Shows console.world.saves view)
    (printable : firstFault (gameLines setting view) = none)
    (ok : answerPlaying setting now view answer console = .ok next after) :
    Fits setting library after next := by
  cases digits : Text.allDigits answer with
  | false =>
    obtain ⟨screen, told, asked⟩ := tells_answerPlaying digits printable
    exact told.fits inPlay (fun _ => asked library _ shows) ok
  | true =>
    obtain ⟨report, same, taken, refused⟩ := answerPlaying_digits digits
    rw [same] at ok
    obtain ⟨number, between, found, rest⟩ := draw_bind_eq_ok.mp ok
    obtain ⟨_, rfl⟩ := draw_lift_eq_ok.mp found
    obtain ⟨result, tried, attempted, told⟩ := draw_bind_eq_ok.mp rest
    obtain ⟨id, entry, named, held⟩ := shows
    rw [named] at attempted
    rcases Talking.attempt_eq_ok attempted with
      ⟨⟨transition, reached⟩, world, rfl, chosen, rfl⟩ |
        ⟨failure, world, rfl, failed, known, rfl⟩
    · obtain ⟨kept, shows⟩ := GameMaster.choose_keeps offers.master aware inPlay chosen
      refine (taken transition reached).fits kept (fun printed => screenOf_fits shows ?_) told
      rw [firstFault_append, Option.or_eq_none_iff] at printed
      exact printed.2
    · have spared := GameMaster.choose_spares offers.master aware inPlay failed known
      have shows := GameMaster.Shows.of_same ⟨id, entry, named, held⟩ spared
      exact (refused failure).fits (SaveStore.Every.of_same inPlay spared)
        (fun _ => screenOf_fits shows printable) told

end playing

section respond
variable {line : String}

theorem respond_failsWith [Host] (offers : setting.Offers library) (aware : now.IsAware)
    (typed : Text.isPlain line = true) (fits : Fits setting library console screen) :
    FailsWith (respond setting now screen line) console failure ↔
      Derails setting library now console screen (answerOf line) failure := by
  have plain := Text.isPlain_trim typed
  cases screen with
  | mainMenu => exact answerMainMenu_failsWith fits.inPlay
  | storyMenu => exact answerStoryMenu_failsWith
  | name story =>
    refine iff_of_false ((tells_answerName story _).not_fails rfl) fun derails => ?_
    cases derails with
    | numeral numbered => cases numbered
    | line telling => cases telling
  | seed story player =>
    exact answerSeed_failsWith offers fits.screen.1 aware fits.screen.2 plain fits.inPlay
  | saveMenu listed => exact answerSaveMenu_failsWith offers fits.inPlay fits.screen
  | playing view =>
    exact answerPlaying_failsWith offers aware fits.inPlay fits.screen.1 fits.screen.2
  | done =>
    refine iff_of_false (failsWith_pure _) fun derails => ?_
    cases derails with
    | numeral numbered => cases numbered
    | line telling => cases telling

theorem respond_fits [Host] (offers : setting.Offers library) (aware : now.IsAware)
    (typed : Text.isPlain line = true) (fits : Fits setting library console screen)
    (ok : respond setting now screen line console = .ok next after) :
    Fits setting library after next := by
  have plain := Text.isPlain_trim typed
  cases screen with
  | mainMenu => exact answerMainMenu_fits fits.inPlay ok
  | storyMenu => exact answerStoryMenu_fits offers fits.inPlay ok
  | name story => exact answerName_fits fits.screen plain fits.inPlay ok
  | seed story player =>
    exact answerSeed_fits offers fits.screen.1 aware fits.screen.2 plain fits.inPlay ok
  | saveMenu listed => exact answerSaveMenu_fits offers fits.inPlay fits.screen ok
  | playing view => exact answerPlaying_fits offers aware fits.inPlay fits.screen.1 fits.screen.2 ok
  | done =>
    obtain ⟨rfl, rfl⟩ := draw_pure_eq_ok.mp ok
    exact fits

end respond

end Gamebook.Cli
