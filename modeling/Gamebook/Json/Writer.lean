import Gamebook.Value.Dict

/-!
Values as JSON text in ASCII: other characters are escaped by their UTF-16 units, reals are written
by their shortest decimal, and what no JSON numeral writes by the words `NaN` and `Infinity`. A
layout says whether entries stand on lines of their own and whether objects are sorted by name.
-/
namespace Gamebook.Json

structure Layout where
  /-- Entries stand on lines of their own, two blanks in for each level. -/
  onLines : Bool
  /-- The fields of objects are in ascending order of their names. -/
  sorted : Bool

def Layout.file : Layout := ⟨true, true⟩

def Layout.line : Layout := ⟨false, false⟩

def unicodeEscape (unit : Nat) : List Char := '\\' :: 'u' :: Text.hexDigits 4 unit

/-- Characters past the first plane are written as a surrogate pair. -/
def escapeUnits (code : Nat) : List Char :=
  if code < 0x10000 then unicodeEscape code
  else unicodeEscape (0xd800 + (code - 0x10000) / 0x400) ++
    unicodeEscape (0xdc00 + (code - 0x10000) % 0x400)

def writeChar (c : Char) : List Char :=
  if c = '"' || c = '\\' then ['\\', c]
  else if c = '\n' then ['\\', 'n']
  else if c = '\r' then ['\\', 'r']
  else if c = '\t' then ['\\', 't']
  else if c = '\x08' then ['\\', 'b']
  else if c = '\x0c' then ['\\', 'f']
  else if 32 ≤ c.toNat && c.toNat < 127 then [c]
  else escapeUnits c.toNat

def writeSign : List Char → List Char
  | [c] => writeChar c
  | sign => escapeUnits (Text.codeOf sign)

def writeString (text : String) : List Char :=
  '"' :: ((Text.signs text.toList).flatMap writeSign ++ ['"'])

def lineBreak (layout : Layout) (level : Nat) : List Char :=
  if layout.onLines then '\n' :: List.replicate (2 * level) ' ' else []

/-- Entries between brackets, one level in. -/
def enclose (layout : Layout) (level : Nat) (opening closing : Char) (entries : List (List Char)) :
    List Char :=
  if entries.isEmpty then [opening, closing]
  else
    let separator := ',' :: (if layout.onLines then lineBreak layout (level + 1) else [' '])
    opening :: (lineBreak layout (level + 1) ++ (entries.intersperse separator).flatten ++
      lineBreak layout level ++ [closing])

def arrange (layout : Layout) (fields : List (String × List Char)) : List (String × List Char) :=
  if layout.sorted then fields.mergeSort fun a b => !Text.before b.1 a.1 else fields

def writeField (field : String × List Char) : List Char := writeString field.1 ++ ':' :: ' ' :: field.2

mutual

def writeValue (layout : Layout) (level : Nat) : Value → List Char
  | .null => "null".toList
  | .bool value => (if value then "true" else "false").toList
  | .int value => (toString value).toList
  | .real value => (value.textWith .json).toList
  | .text value => writeString value
  | .list items | .tuple items =>
    enclose layout level '[' ']' (writeItems layout (level + 1) items)
  | .object fields =>
    enclose layout level '\x7b' '\x7d'
      ((arrange layout (writeFields layout (level + 1) fields)).map writeField)
  | .view entries =>
    enclose layout level '\x7b' '\x7d'
      ((arrange layout (writeEntries layout (level + 1) entries)).map writeField)

def writeItems (layout : Layout) (level : Nat) : List Value → List (List Char)
  | [] => []
  | item :: items => writeValue layout level item :: writeItems layout level items

def writeFields (layout : Layout) (level : Nat) :
    List (String × Value) → List (String × List Char)
  | [] => []
  | (name, entry) :: fields =>
    (name, writeValue layout level entry) :: writeFields layout level fields

def writeEntries (layout : Layout) (level : Nat) :
    List (Value × Value) → List (String × List Char)
  | [] => []
  | (key, entry) :: entries =>
    (key.keyName, writeValue layout level entry) :: writeEntries layout level entries

end

def write (layout : Layout) (value : Value) : String := String.ofList (writeValue layout 0 value)

end Gamebook.Json
