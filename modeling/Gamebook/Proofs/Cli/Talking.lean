import Gamebook.Cli.Session
import Gamebook.Proofs.Outcome
import Gamebook.Proofs.Text.Answers
import Gamebook.Proofs.Text.Numerals
import Gamebook.Proofs.Text.Plain
import Gamebook.Proofs.Value.Shown

/-!
The parts of a session: what is only told changes nothing else and fails exactly at a line that
cannot be printed, a failure of a game is that of the console unless it is reported, and answers pick
from lists unless they are made of digits without being numbers.
-/
namespace Gamebook.Cli
variable {α β : Type} {console after : Console} {failure : Failure}

/-- What keeps a line from being printed: that it cannot be put together, or half a surrogate
pair. -/
def faultOf : Line → Option Fault
  | .error fault => some fault
  | .ok text => if (Text.chars? text).isSome then none else some .unencodable

/-- What stops lines that are printed one after the other. -/
def firstFault (lines : List Line) : Option Fault := lines.findSome? faultOf

theorem firstFault_append (lines more : List Line) :
    firstFault (lines ++ more) = (firstFault lines).or (firstFault more) :=
  List.findSome?_append

theorem faultOf_of_unmarked {text : String} (unmarked : Text.mark ∉ text.toList) :
    faultOf (.ok text) = none := by
  have chars := Text.chars?_ofList unmarked
  rw [String.ofList_toList] at chars
  rw [faultOf, chars]
  rfl

/-- Gives a result after printing lines, unless one of these cannot be printed; nothing else of the
console changes. -/
def Tells (talking : Talking α) (lines : List Line) (result : α) : Prop :=
  ∀ console, ∃ output, talking console = match firstFault lines with
    | none => .ok result { console with output := output }
    | some fault => .error (.fault fault) { console with output := output }

namespace Tells
variable {talking : Talking α} {lines more : List Line} {result : α}

theorem failsWith (tells : Tells talking lines result) : FailsWith talking console failure ↔
    ∃ fault, firstFault lines = some fault ∧ failure = .fault fault := by
  obtain ⟨output, told⟩ := tells console
  unfold FailsWith
  cases stops : firstFault lines with
  | none =>
    rw [stops] at told
    refine iff_of_false ?_ (by rintro ⟨_, ⟨⟩, _⟩)
    rintro ⟨_, failed⟩
    cases told.symm.trans failed
  | some fault =>
    rw [stops] at told
    constructor
    · rintro ⟨_, failed⟩
      cases told.symm.trans failed
      exact ⟨fault, rfl, rfl⟩
    · rintro ⟨_, ⟨⟩, rfl⟩
      exact ⟨_, told⟩

theorem not_fails (tells : Tells talking lines result) (printable : firstFault lines = none) :
    ¬ FailsWith talking console failure := by
  rw [tells.failsWith, printable]
  nofun

theorem of_ok (tells : Tells talking lines result) {value : α}
    (ok : talking console = .ok value after) :
    firstFault lines = none ∧ value = result ∧ after.world = console.world := by
  obtain ⟨_, told⟩ := tells console
  cases stops : firstFault lines with
  | none =>
    rw [stops] at told
    cases told.symm.trans ok
    exact ⟨rfl, rfl, rfl⟩
  | some fault =>
    rw [stops] at told
    cases told.symm.trans ok

theorem ok (tells : Tells talking lines result) (printable : firstFault lines = none)
    (console : Console) : ∃ output, talking console = .ok result { console with output := output } := by
  obtain ⟨output, told⟩ := tells console
  rw [printable] at told
  exact ⟨output, told⟩

theorem congr (tells : Tells talking lines result) (same : firstFault lines = firstFault more) :
    Tells talking more result := by
  unfold Tells
  rw [← same]
  exact tells

theorem bind {next : α → Talking β} {last : β} (tells : Tells talking lines result)
    (goesOn : Tells (next result) more last) : Tells (talking >>= next) (lines ++ more) last := by
  intro console
  obtain ⟨output, told⟩ := tells console
  rw [firstFault_append]
  cases stops : firstFault lines with
  | none =>
    rw [stops] at told
    obtain ⟨output, toldMore⟩ := goesOn { console with output := output }
    refine ⟨output, ?_⟩
    change EStateM.bind talking next console = _
    rw [EStateM.bind, told]
    exact toldMore
  | some fault =>
    rw [stops] at told
    exact ⟨output, draw_bind_eq_error.mpr (.inl told)⟩

/-- What comes after is not stopped by lines that can always be printed. -/
theorem bind_printable {next : α → Talking β} {last : β} (tells : Tells talking lines result)
    (printable : firstFault lines = none) (goesOn : Tells (next result) more last) :
    Tells (talking >>= next) more last := by
  refine (tells.bind goesOn).congr ?_
  rw [firstFault_append, printable, Option.none_or]

end Tells

theorem tells_pure (result : α) : Tells (pure result) [] result := fun console => ⟨console.output, rfl⟩

theorem tells_print (text ending : String) : Tells (Talking.print text ending) [.ok text] () := by
  intro console
  unfold Talking.print firstFault
  rw [List.findSome?_singleton, faultOf]
  split
  · exact ⟨_, rfl⟩
  · exact ⟨console.output, rfl⟩

theorem tells_say (lines : List Line) : Tells (Talking.say lines) lines () := by
  induction lines with
  | nil => exact tells_pure ()
  | cons line lines ih =>
    have printed : Tells (do Talking.print (← liftExcept (Fault.lift line))) [line] () := by
      cases line with
      | error fault => exact fun console => ⟨console.output, rfl⟩
      | ok text => exact tells_print text "\n"
    exact printed.bind ih

theorem tells_ask (lines : List Line) {question : String} (printable : firstFault [.ok question] = none)
    (screen : Screen) :
    Tells (do Talking.say lines; Talking.prompt question; return screen) lines screen := by
  refine ((tells_say lines).bind
    ((tells_print question "").bind_printable printable (tells_pure screen))).congr ?_
  rw [List.append_nil]

theorem tells_openMainMenu : Tells openMainMenu [] .mainMenu :=
  (tells_ask _ (by decide +kernel) _).congr (by decide +kernel)

theorem tells_leave : Tells leave [] .done :=
  (tells_print _ _).bind_printable (by decide +kernel) (tells_pure _)

/-- Something that can always be printed is said before the main menu is shown again. -/
theorem tells_back {text : String} (printable : firstFault [.ok text] = none) :
    Tells (do Talking.print text; openMainMenu) [] .mainMenu :=
  (tells_print text _).bind_printable printable tells_openMainMenu

theorem tells_welcome : Tells welcome [] .mainMenu := tells_back (by decide +kernel)

theorem tells_sayInvalid (count : Nat) : Tells (sayInvalid count) [] () := by
  refine (tells_print _ _).congr ?_
  refine (List.findSome?_singleton ..).trans (faultOf_of_unmarked ?_)
  have letters : (s!"Invalid selection. Please enter a number between 1 and {count}.").toList =
      "Invalid selection. Please enter a number between 1 and ".toList ++
        (Nat.toDigits 10 count ++ ['.']) := by
    simp [String.toList_append, Nat.toList_repr, ToString.toString]
  have digits : Text.mark ∉ Nat.toDigits 10 count :=
    Text.unmarked_toDigits (by decide) (by decide) count
  have fixed : Text.mark ∉ "Invalid selection. Please enter a number between 1 and ".toList := by
    decide +kernel
  have stop : Text.mark ∉ ['.'] := by decide
  rw [letters]
  simp only [List.mem_append, not_or]
  exact ⟨fixed, digits, stop⟩

/-- An answer that picks nothing is told so before the question is asked again. -/
theorem tells_askAgain (count : Nat) {question : String}
    (printable : firstFault [.ok question] = none) (screen : Screen) :
    Tells (do sayInvalid count; Talking.prompt question; return screen) [] screen :=
  (tells_sayInvalid count).bind ((tells_print question "").bind_printable printable (tells_pure screen))

/-- The menu of the stories on offer. -/
def storyLines (setting : Setting) : List Line :=
  menuLines "Stories" (setting.stories.map (·.title))

theorem tells_openStoryMenu (setting : Setting) :
    Tells (openStoryMenu setting) (storyLines setting)
      (if setting.stories.isEmpty then .mainMenu else .storyMenu) := by
  unfold openStoryMenu storyLines
  split
  · rename_i none
    rw [List.isEmpty_iff.mp none]
    exact (tells_back (by decide +kernel)).congr (by decide +kernel)
  · exact tells_ask _ (by decide +kernel) _

/-- The menu of the saves that are listed. -/
def saveLines (listed : List SaveSummary) : List Line :=
  menuLines "Saved Games" (listed.filterMap saveLabel)

/-- What is shown of a game. -/
def gameLines (setting : Setting) (view : GameView) : List Line :=
  nodeLines setting.debug view.node.id view.node.text ++ progressLine view.progress ::
    if view.isEnding then [] else choiceLines setting.showLocked (view.choices.map .ofView)

def startedText (seed save : String) : String := s!"Game started with seed: {seed} (save: {save})"

def refusalLine (failure : Failure) : Line :=
  .ok s!"That choice is not available: {failure.message}"

/-- The screen on which a game is shown; after an ending it is the main menu. -/
def screenOf (view : GameView) : Screen := if view.isEnding then .mainMenu else .playing view

theorem tells_showGame (setting : Setting) (view : GameView) :
    Tells (showGame setting view) (gameLines setting view) (screenOf view) := by
  unfold showGame screenOf gameLines
  refine (tells_say _).bind ((tells_say [_]).bind ?_)
  cases view.isEnding with
  | true =>
    have ended : firstFault [.ok "\n*** The End ***"] = none := by decide +kernel
    exact tells_back ended
  | false =>
    have asked : firstFault [.ok "Choose (number, m for menu, q to quit): "] = none := by
      decide +kernel
    exact tells_ask _ asked _

theorem failsWith_lift_tells {computation : Outcome α} {next : α → Talking β} (lines : α → List Line)
    (tells : ∀ value, ∃ reply, Tells (next value) (lines value) reply) :
    FailsWith (liftExcept computation >>= next) console failure ↔ computation = .error failure ∨
      ∃ value fault, computation = .ok value ∧ firstFault (lines value) = some fault ∧
        failure = .fault fault := by
  refine failsWith_lift_bind.trans (or_congr_right ⟨?_, ?_⟩)
  · rintro ⟨value, given, failed⟩
    obtain ⟨_, told⟩ := tells value
    obtain ⟨fault, stops, rfl⟩ := told.failsWith.mp failed
    exact ⟨value, fault, given, stops, rfl⟩
  · rintro ⟨value, fault, given, stops, rfl⟩
    obtain ⟨_, told⟩ := tells value
    exact ⟨value, given, told.failsWith.mpr ⟨fault, stops, rfl⟩⟩

namespace Talking
variable {playing : Playing RandomSource α} {isReported : Failure → Bool}

theorem play_eq_ok {value : α} : play playing console = .ok value after ↔
    ∃ world, playing console.world = .ok value world ∧ after = { console with world := world } := by
  unfold play
  cases playing console.world with
  | ok found world => exact ⟨by rintro ⟨⟩; exact ⟨world, rfl, rfl⟩, by rintro ⟨_, ⟨⟩, rfl⟩; rfl⟩
  | error problem world => exact ⟨nofun, by rintro ⟨_, ⟨⟩, _⟩⟩

theorem failsWith_play :
    FailsWith (play playing) console failure ↔ FailsWith playing console.world failure := by
  unfold FailsWith play
  cases playing console.world with
  | ok value world => exact ⟨by rintro ⟨_, ⟨⟩⟩, by rintro ⟨_, ⟨⟩⟩⟩
  | error problem world =>
    exact ⟨by rintro ⟨_, ⟨⟩⟩; exact ⟨world, rfl⟩, by rintro ⟨_, ⟨⟩⟩; exact ⟨_, rfl⟩⟩

theorem attempt_of_ok {value : α} {world : World RandomSource}
    (ok : playing console.world = .ok value world) :
    attempt isReported playing console = .ok (.ok value) { console with world := world } := by
  have played : play playing console = .ok value { console with world := world } :=
    play_eq_ok.mpr ⟨world, ok, rfl⟩
  have passed : (do return .ok (← play playing) : Talking (Except Failure α)) console =
      .ok (.ok value) { console with world := world } := draw_bind_eq_ok.mpr ⟨_, _, played, rfl⟩
  change EStateM.tryCatch _ _ console = _
  rw [EStateM.tryCatch, passed]

theorem attempt_of_error {world : World RandomSource}
    (failed : playing console.world = .error failure world) :
    attempt isReported playing console =
      if isReported failure then .ok (.error failure) { console with world := world }
      else .error failure { console with world := world } := by
  have stopped : (do return .ok (← play playing) : Talking (Except Failure α)) console =
      .error failure { console with world := world } := by
    refine draw_bind_eq_error.mpr (.inl ?_)
    rw [play, failed]
  change EStateM.tryCatch _ _ console = _
  rw [EStateM.tryCatch, stopped]
  dsimp only [EStateM.Backtrackable.restore]
  split <;> rfl

/-- Only a failure that is not reported goes through. -/
theorem failsWith_attempt : FailsWith (attempt isReported playing) console failure ↔
    FailsWith playing console.world failure ∧ isReported failure = false := by
  unfold FailsWith
  cases played : playing console.world with
  | ok value world =>
    rw [attempt_of_ok played]
    exact ⟨by rintro ⟨_, ⟨⟩⟩, by rintro ⟨⟨_, ⟨⟩⟩, _⟩⟩
  | error problem world =>
    rw [attempt_of_error played]
    split
    · rename_i reported
      exact ⟨by rintro ⟨_, ⟨⟩⟩, by rintro ⟨⟨_, ⟨⟩⟩, unreported⟩; cases reported.symm.trans unreported⟩
    · rename_i unreported
      constructor
      · rintro ⟨_, ⟨⟩⟩
        exact ⟨⟨world, rfl⟩, eq_false_of_ne_true unreported⟩
      · rintro ⟨⟨_, ⟨⟩⟩, _⟩
        exact ⟨_, rfl⟩

theorem attempt_eq_ok {result : Except Failure α}
    (ok : attempt isReported playing console = .ok result after) :
    (∃ value world, result = .ok value ∧ playing console.world = .ok value world ∧
      after = { console with world := world }) ∨
    ∃ failure world, result = .error failure ∧ playing console.world = .error failure world ∧
      isReported failure = true ∧ after = { console with world := world } := by
  cases played : playing console.world with
  | ok value world =>
    rw [attempt_of_ok played] at ok
    cases ok
    exact .inl ⟨value, world, rfl, rfl, rfl⟩
  | error failure world =>
    rw [attempt_of_error played] at ok
    split at ok
    · rename_i reported
      cases ok
      exact .inr ⟨failure, world, rfl, rfl, reported, rfl⟩
    · cases ok

end Talking

/-- Digits that make no number: some are other than decimal ones, or there are too many. -/
structure IsUnreadable (answer : List Char) : Prop where
  digits : Text.allDigits answer = true
  other : (∃ c ∈ answer, Text.isDecimal c = false) ∨ Text.maxDigits < answer.length

theorem numberOf_eq_ok {answer : List Char} {number : Int} :
    numberOf answer = .ok number ↔ Text.readInt? answer = some number := by
  unfold numberOf
  cases Text.readInt? answer <;> simp

theorem numberOf_eq_error {answer : List Char} (digits : Text.allDigits answer = true) :
    numberOf answer = .error failure ↔ IsUnreadable answer ∧ failure = .fault .badValue := by
  have unreadable : Text.readInt? answer = none ↔ IsUnreadable answer :=
    (Text.readInt?_eq_none digits).trans ⟨fun other => ⟨digits, other⟩, fun both => both.other⟩
  rw [← unreadable]
  unfold numberOf
  cases Text.readInt? answer <;> simp [eq_comm]

theorem pickFrom_eq_error {items : List α} {answer : List Char} :
    pickFrom items answer = .error failure ↔ IsUnreadable answer ∧ failure = .fault .badValue := by
  unfold pickFrom
  split
  · rename_i blank
    rw [List.isEmpty_iff.mp blank]
    exact ⟨nofun, fun both => nomatch both.1.digits⟩
  split
  · rename_i digits
    rw [bind_eq_error, numberOf_eq_error digits]
    refine or_iff_left ?_
    rintro ⟨number, _, picked⟩
    split at picked
    · cases picked
    · split at picked <;> cases picked
  · rename_i noDigits
    exact ⟨nofun, fun both => absurd both.1.digits noDigits⟩

theorem mem_of_pickFrom {items : List α} {answer : List Char} {item : α}
    (picked : pickFrom items answer = .ok (.item item)) : item ∈ items := by
  unfold pickFrom at picked
  split at picked
  · cases picked
  split at picked
  · obtain ⟨number, _, picked⟩ := bind_eq_ok.mp picked
    split at picked
    · cases picked
    · split at picked
      · rename_i found
        cases picked
        exact List.mem_of_getElem? found
      · cases picked
  · cases picked

end Gamebook.Cli
