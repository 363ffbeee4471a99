import Gamebook.Text.CharClass
import Gamebook.Text.Spelling
import Gamebook.Text.Split

/-!
Text in lines of limited width. Lines break only where blanks stand, so a longer word has a line of
its own; blanks between the words of a line are kept, those around a break are not, and those in
front of a paragraph are.
-/
namespace Gamebook.Text

def tabWidth : Nat := 8

def expandTabs (column : Nat) : List (List Char) → List (List Char)
  | [] => []
  | ['\t'] :: rest =>
    let count := tabWidth - column % tabWidth
    List.replicate count [' '] ++ expandTabs (column + count) rest
  | sign :: rest =>
    sign :: expandTabs (if sign = ['\n'] || sign = ['\r'] then 0 else column + 1) rest

def chunks (text : List Char) : List (List Char) :=
  ((expandTabs 0 (signs text)).flatten.map fun c => if isAsciiBlank c then ' ' else c).splitBy fun a b =>
    (a == ' ') == (b == ' ')

def isBlankText (text : List Char) : Bool := text.all isBlank

def takeFitting (width used : Nat) : List (List Char) → List (List Char) × List (List Char)
  | [] => ([], [])
  | chunk :: rest =>
    if used + size chunk ≤ width then
      let (line, left) := takeFitting width (used + size chunk) rest
      (chunk :: line, left)
    else ([], chunk :: rest)

theorem takeFitting_append (width used : Nat) (pieces : List (List Char)) :
    (takeFitting width used pieces).1 ++ (takeFitting width used pieces).2 = pieces := by
  induction pieces generalizing used with
  | nil => rfl
  | cons chunk rest ih =>
    unfold takeFitting
    split
    · simp [ih]
    · rfl

/-- The chunks of one line and the rest; a chunk that fits nowhere is a line. -/
def takeLine (width : Nat) (first : List Char) (rest : List (List Char)) :
    List (List Char) × List (List Char) :=
  if size first ≤ width then
    let (line, left) := takeFitting width (size first) rest
    (first :: line, left)
  else ([first], rest)

theorem takeLine_length_le (width : Nat) (first : List Char) (rest : List (List Char)) :
    (takeLine width first rest).2.length ≤ rest.length := by
  unfold takeLine
  split
  · have whole := congrArg List.length (takeFitting_append width (size first) rest)
    simp only [List.length_append] at whole
    show (takeFitting width (size first) rest).2.length ≤ rest.length
    omega
  · exact Nat.le_refl _

/-- A line without the blanks that end it, unless nothing is left. -/
def closeLine (line : List (List Char)) : List (List Char) :=
  let kept := match line.getLast? with
    | some last => if isBlankText last then line.dropLast else line
    | none => []
  if kept.isEmpty then [] else [kept.flatten]

/-- Fills lines; at the beginning of any but the first, one blank chunk is left out. -/
def fillLines (width : Nat) (started : Bool) : List (List Char) → List (List Char)
  | [] => []
  | first :: rest =>
    if started && isBlankText first then
      match rest with
      | [] => []
      | second :: rest =>
        let line := takeLine width second rest
        have := takeLine_length_le width second rest
        closeLine line.1 ++ fillLines width true line.2
    else
      let line := takeLine width first rest
      have := takeLine_length_le width first rest
      let closed := closeLine line.1
      closed ++ fillLines width (started || !closed.isEmpty) line.2
termination_by pieces => pieces.length
decreasing_by all_goals simp_wf; omega

def wrapParagraph (width : Nat) (paragraph : List Char) : List (List Char) :=
  if isBlankText paragraph then [[]] else fillLines width false (chunks paragraph)

def wrap (width : Nat) (text : String) : List String :=
  ((splitAt '\n' text.toList).flatMap (wrapParagraph width)).map String.ofList

end Gamebook.Text
