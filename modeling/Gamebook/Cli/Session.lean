import Gamebook.Cli.Config
import Gamebook.Cli.Render
import Gamebook.Play.SavedGame
import Gamebook.Story.File
import Gamebook.Story.Lighthouse

/-!
A session at the console: screens that await a line each, and what the line leads to. A choice that
cannot be taken and a save that cannot be loaded are reported; any other failure ends the session.
-/
namespace Gamebook.Cli
variable [Host]

structure Setting where
  /-- The stories on offer. -/
  stories : List Story
  master : GameMaster RandomSource
  showLocked : Bool
  debug : Bool
  /-- The hexadecimal token of a number of bytes that a call gets, by the number of the call. -/
  token : Nat → Nat → String

structure Console where
  world : World RandomSource
  /-- How many tokens were given out. -/
  tokens : Nat
  output : String

abbrev Talking := EStateM Failure Console

inductive Screen where
  | mainMenu
  | storyMenu
  | name (story : Story)
  | seed (story : Story) (player : String)
  | saveMenu (saves : List SaveSummary)
  | playing (view : GameView)
  /-- Nothing any more. -/
  | done

inductive Ending where
  | returned
  | exit (code : Nat)
  | failed (failure : Failure)

namespace Talking

/-- Prints a text as a line or, as a prompt, without an end. Of a text with half a surrogate pair,
for which there are no bytes, nothing is printed. -/
def print (text : String) (ending : String := "\n") : Talking Unit :=
  if (Text.chars? text).isSome then
    modify fun console => { console with output := console.output ++ text ++ ending }
  else throw (.fault .unencodable)

def prompt (text : String) : Talking Unit := print text ""

def say (lines : List Line) : Talking Unit :=
  lines.forM fun line => do print (← liftExcept (Fault.lift line))

def play {α : Type} (playing : Playing RandomSource α) : Talking α := fun console =>
  match playing console.world with
  | .ok value world => .ok value { console with world := world }
  | .error failure world => .error failure { console with world := world }

/-- The failure that play ends with is given back if it is one of those to be reported. -/
def attempt {α : Type} (isReported : Failure → Bool) (playing : Playing RandomSource α) :
    Talking (Except Failure α) :=
  tryCatch (do return .ok (← play playing)) fun failure =>
    if isReported failure then return .error failure else throw failure

def token (setting : Setting) (bytes : Nat) : Talking String := do
  let call := (← get).tokens
  modify fun console => { console with tokens := call + 1 }
  return setting.token call bytes

end Talking

open Talking

def answerOf (line : String) : List Char := Text.trim line.toList

/-- The number of an answer that is made of digits; some digits make no number. -/
def numberOf (answer : List Char) : Outcome Int :=
  match Text.readInt? answer with
  | some number => .ok number
  | none => .error (.fault .badValue)

inductive Pick (α : Type) where
  | cancelled
  | item (item : α)
  | invalid

def pickFrom {α : Type} (items : List α) (answer : List Char) : Outcome (Pick α) :=
  if answer.isEmpty then .ok .cancelled
  else if Text.allDigits answer then do
    let number ← numberOf answer
    if number < 1 then return .invalid
    match items[number.toNat - 1]? with
    | some item => return .item item
    | none => return .invalid
  else .ok .invalid

def mainOptions : List String := ["New Game", "Continue", "Quit"]

def openMainMenu : Talking Screen := do
  say (menuLines "Main Menu" mainOptions)
  prompt "Select an option: "
  return .mainMenu

def storyPrompt : String := "Select a story (blank to cancel): "

def savePrompt : String := "Select a save (blank to cancel): "

def sayInvalid (count : Nat) : Talking Unit :=
  print s!"Invalid selection. Please enter a number between 1 and {count}."

def openStoryMenu (setting : Setting) : Talking Screen := do
  if setting.stories.isEmpty then
    print "No stories available."
    openMainMenu
  else
    say (menuLines "Stories" (setting.stories.map (·.title)))
    prompt storyPrompt
    return .storyMenu

def saveLabel (summary : SaveSummary) : Option String :=
  match summary.state with
  | .ok state => do
    let count ← state.choiceCount.toOption
    return s!"{summary.id.text} - {state.storyId.asText} ({count} choices)"
  | .error _ => none

def openSaveMenu : Talking Screen := do
  let summaries ← liftExcept ((← get).world.saves.summaries none none)
  let saves := summaries.filter fun summary => !summary.isCorrupt
  if saves.isEmpty then
    print "No saved games found."
    openMainMenu
  else
    say (menuLines "Saved Games" (saves.filterMap saveLabel))
    prompt savePrompt
    return .saveMenu saves

/-- Shows where a game stands; after an ending the main menu comes next. -/
def showGame (setting : Setting) (view : GameView) : Talking Screen := do
  say (nodeLines setting.debug view.node.id view.node.text)
  say [progressLine view.progress]
  if view.isEnding then
    print "\n*** The End ***"
    openMainMenu
  else
    say (choiceLines setting.showLocked (view.choices.map .ofView))
    prompt "Choose (number, m for menu, q to quit): "
    return .playing view

def leave : Talking Screen := do
  print "Goodbye!"
  return .done

def answerMainMenu (setting : Setting) (answer : List Char) : Talking Screen :=
  if answer = ['1'] then openStoryMenu setting
  else if answer = ['2'] then openSaveMenu
  else if answer = ['3'] then leave
  else do
    print "Invalid selection. Please enter 1, 2 or 3."
    openMainMenu

def answerStoryMenu (setting : Setting) (answer : List Char) : Talking Screen := do
  match ← liftExcept (pickFrom setting.stories answer) with
  | .cancelled => openMainMenu
  | .item story =>
    prompt "Enter your name (default player): "
    return .name story
  | .invalid =>
    sayInvalid setting.stories.length
    prompt storyPrompt
    return .storyMenu

def answerName (story : Story) (answer : List Char) : Talking Screen := do
  prompt "Enter seed (blank for random): "
  return .seed story (if answer.isEmpty then "player" else String.ofList answer)

def answerSeed (setting : Setting) (now : Timestamp) (story : Story) (player : String)
    (answer : List Char) : Talking Screen := do
  let seed ← if answer.isEmpty then token setting 8 else pure (String.ofList answer)
  let save := s!"{story.id}_{← token setting 4}"
  let view ← play (setting.master.start now (.text player) (.text story.id) (.text save)
    (.text seed) .null false)
  print s!"Game started with seed: {seed} (save: {save})"
  showGame setting view

def answerSaveMenu (setting : Setting) (saves : List SaveSummary) (answer : List Char) :
    Talking Screen := do
  match ← liftExcept (pickFrom saves answer) with
  | .cancelled => openMainMenu
  | .item summary =>
    match ← attempt Failure.isForeseen (setting.master.resume (.text summary.id.text)) with
    | .ok view => showGame setting view
    | .error failure =>
      print s!"Unable to load save: {failure.message}"
      openMainMenu
  | .invalid =>
    sayInvalid saves.length
    prompt savePrompt
    return .saveMenu saves

def answerPlaying (setting : Setting) (now : Timestamp) (view : GameView) (answer : List Char) :
    Talking Screen := do
  if answer = ['q'] || answer = ['Q'] then leave
  else if answer = ['m'] || answer = ['M'] then openMainMenu
  else if Text.allDigits answer then
    let index ← liftExcept (numberOf answer)
    let result ← attempt Failure.isUnavailableChoice
      (setting.master.choose now view.saveId (.int (index - 1)))
    match result with
    | .ok (transition, next) =>
      say (rollLines (transition.rolls.map .ofResult))
      showGame setting next
    | .error failure =>
      print s!"That choice is not available: {failure.message}"
      showGame setting view
  else
    print "Please enter a choice number."
    showGame setting view

def respond (setting : Setting) (now : Timestamp) (screen : Screen) (line : String) :
    Talking Screen :=
  let answer := answerOf line
  match screen with
  | .mainMenu => answerMainMenu setting answer
  | .storyMenu => answerStoryMenu setting answer
  | .name story => answerName story answer
  | .seed story player => answerSeed setting now story player answer
  | .saveMenu saves => answerSaveMenu setting saves answer
  | .playing view => answerPlaying setting now view answer
  | .done => return .done

def welcome : Talking Screen := do
  print "=== Choose Your Own Adventure ==="
  openMainMenu

/-- Answers one line after the other; a session that is not done needs another line. -/
def converse (setting : Setting) (now : Timestamp) : Screen → List String → Talking Unit
  | .done, _ => return ()
  | _, [] => throw (.fault .inputEnded)
  | screen, line :: lines => do converse setting now (← respond setting now screen line) lines

def libraryOf (config : Config) (entry : Option Entry) : Outcome Library :=
  match config.storiesPath with
  | none => .ok .bundled
  | some path => Library.ofFile (Path.ofText path).text entry

/-- Everything a session has to do with outside its lines. -/
structure Surroundings where
  library : Outcome Library
  showLocked : Bool
  debug : Bool
  token : Nat → Nat → String

def settingOf (surroundings : Surroundings) (library : Library) : Setting where
  stories := library.all
  master := ⟨.ok library.source, Condition.defaultPredicates, RandomSource.generator⟩
  showLocked := surroundings.showLocked
  debug := surroundings.debug
  token := surroundings.token

def storyProblemLine (failure : Failure) : String := s!"Unable to load stories: {failure.message}"

def reportNoStories (failure : Failure) : Talking Unit := do
  if failure.isStoryProblem then print (storyProblemLine failure) else throw failure

def session (surroundings : Surroundings) (now : Timestamp) (console : Console)
    (lines : List String) : Ending × Console :=
  let (ending, talking) : Ending × Talking Unit := match surroundings.library with
    | .error failure => (.exit 1, reportNoStories failure)
    | .ok library =>
      let setting := settingOf surroundings library
      (.returned, do converse setting now (← welcome) lines)
  match talking console with
  | .ok () console => (ending, console)
  | .error failure console => (.failed failure, console)

end Gamebook.Cli
