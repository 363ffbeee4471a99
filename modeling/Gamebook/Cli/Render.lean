import Gamebook.Dice.Roll
import Gamebook.Play.Progress
import Gamebook.Text.Wrap

/-!
What the console shows of a game, in lines that are put together one by one as they are printed.
Numbers, difficulties and totals are shown as they are, whatever values they are, but for whole
numbers with too many digits: a line with such a number is none.
-/
namespace Gamebook.Cli

def textWidth : Nat := 76

/-- A line of the console, or what keeps it from being put together. -/
abbrev Line := Except Fault String

/-- How many characters a width has room for, at most as many as there are; a width has to be a
positive number. -/
def columns (width : Value) (length : Nat) : Except Fault Nat :=
  match width.countable? with
  | none => .error .wrongKind
  | some width =>
    if width.le (.int 0) then .error .badValue
    else match width with
      | .int count => .ok count.toNat
      | .real count => .ok ((count.floor?.map Int.toNat).getD length)

def wrapText (width : Value) (text : String) : Except Fault (List String) := do
  let isBlank := (Text.splitAt '\n' text.toList).all Text.isBlankText
  let columns ← if isBlank then pure textWidth else columns width text.length
  return Text.wrap columns text

def heading (title : String) : List Line := [.ok "", .ok s!"=== {title} ==="]

def nodeLines (debug : Bool) (id text : String) : List Line :=
  heading "Story" ++ (if debug then [.ok s!"[{id}]"] else []) ++ (Text.wrap textWidth text).map .ok

structure ChoiceLine where
  /-- The number before the one that is shown. -/
  index : Value
  text : Value
  available : Bool
  needsRoll : Bool

namespace ChoiceLine

def ofView (choice : ChoiceView) : ChoiceLine :=
  ⟨.int choice.index, .text choice.text, choice.available, choice.needsRoll⟩

/-- The text with its marks, which only text can have. -/
def label (choice : ChoiceLine) : Except Fault Value :=
  match (if choice.needsRoll then " [check]" else "") ++
    (if choice.available then "" else " (locked)") with
  | "" => .ok choice.text
  | marks => choice.text.add (.text marks)

def numbered (choice : ChoiceLine) : Line := do
  let number ← (← choice.index.add (.int 1)).toText
  return s!"{number}. {← (← choice.label).toText}"

end ChoiceLine

def choiceLines (showLocked : Bool) (choices : List ChoiceLine) : List Line :=
  let visible := choices.filter fun choice => showLocked || choice.available
  if visible.isEmpty then [] else heading "Choices" ++ visible.map ChoiceLine.numbered

structure RollLine where
  stat : Value
  formula : Value
  difficulty : Value
  faces : List Value
  total : Value
  success : Bool
  criticalSuccess : Bool
  criticalFailure : Bool

namespace RollLine

def ofResult (roll : RollResult) : RollLine where
  stat := (roll.stat.map Value.text).getD .null
  formula := .text roll.formula
  difficulty := roll.difficulty
  faces := roll.rolls.map .int
  total := .int roll.total
  success := roll.success = some true
  criticalSuccess := roll.criticalSuccess
  criticalFailure := roll.criticalFailure

def outcomeWord (roll : RollLine) : String :=
  if roll.criticalSuccess then "critical success"
  else if roll.criticalFailure then "critical failure"
  else if roll.success then "success"
  else "failure"

def text (roll : RollLine) : Line := do
  let faces ← roll.faces.mapM Value.toText
  let stat ← if roll.stat.isFilled then roll.stat.toText.map (· ++ " ") else pure ""
  let formula ← roll.formula.toText
  let difficulty ← roll.difficulty.toText
  let total ← roll.total.toText
  return s!"{stat}check {formula} vs {difficulty}: [{Value.commas faces}] = {total} ({roll.outcomeWord})"

end RollLine

def rollLines (rolls : List RollLine) : List Line :=
  if rolls.isEmpty then [] else heading "Rolls" ++ rolls.map fun roll => roll.text.map ("- " ++ ·)

def progressText (percentage visited total choicesMade : Value) : Line := do
  let percentage ← percentage.toText
  let visited ← visited.toText
  let total ← total.toText
  return s!"Progress: {percentage}% ({visited}/{total} nodes, {← choicesMade.toText} choices)"

def progressLine (progress : Progress) : Line :=
  progressText (.int progress.percentage) (.int progress.visited) progress.total
    (.int progress.choicesMade)

def menuLines (title : String) (options : List String) : List Line :=
  heading title ++ options.zipIdx.map fun (label, index) => .ok s!"{index + 1}. {label}"

end Gamebook.Cli
