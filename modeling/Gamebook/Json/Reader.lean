import Gamebook.Host

/-!
JSON text as values. Beside the standard grammar the words `NaN`, `Infinity` and `-Infinity` are
numbers, the first always the same one; a numeral with a fraction or an exponent is a real, any
other is a whole number; of equal names in an object the first gives the place and the last the
entry. Each step of the reader uses up fuel and at least one character, so fuel above the length of
the text never runs out.
-/
namespace Gamebook.Json

inductive Unreadable where
  | malformed
  /-- A whole number has too many digits. -/
  | numeralTooLong
  | tooDeep
  deriving DecidableEq

/-- What a reader found, usually with the text after it. -/
abbrev Reading := Except Unreadable

def isSpace (c : Char) : Bool := c = ' ' || c = '\t' || c = '\n' || c = '\r'

def skipSpace (text : List Char) : List Char := text.dropWhile isSpace

def readHex? : List Char → Option (Nat × List Char)
  | a :: b :: c :: d :: rest => do
    return (((← Text.hexValue? a) * 16 + (← Text.hexValue? b)) * 256
      + (← Text.hexValue? c) * 16 + (← Text.hexValue? d), rest)
  | _ => none

def readLowHalf? : List Char → Option (Nat × List Char)
  | '\\' :: 'u' :: text => do
    let (code, rest) ← readHex? text
    if 0xdc00 ≤ code && code < 0xe000 then some (code - 0xdc00, rest) else none
  | _ => none

/-- The sign after `\u`, which may be half of a surrogate pair on its own. -/
def readUnicode? (text : List Char) : Option (List Char × List Char) := do
  let (code, rest) ← readHex? text
  if 0xd800 ≤ code && code < 0xdc00 then
    match readLowHalf? rest with
    | some (low, rest) =>
      return (Text.spellChar (Char.ofNat (0x10000 + (code - 0xd800) * 0x400 + low)), rest)
    | none => return (Text.spellHalf code, rest)
  else if 0xdc00 ≤ code && code < 0xe000 then return (Text.spellHalf code, rest)
  else return ([Char.ofNat code], rest)

def simpleEscape? : Char → Option Char
  | '"' => some '"'
  | '\\' => some '\\'
  | '/' => some '/'
  | 'b' => some '\x08'
  | 'f' => some '\x0c'
  | 'n' => some '\n'
  | 'r' => some '\r'
  | 't' => some '\t'
  | _ => none

/-- The spelling of one character of a string, or none at its closing quote. -/
def readChar : List Char → Reading (Option (List Char) × List Char)
  | '"' :: rest => .ok (none, rest)
  | '\\' :: 'u' :: rest => match readUnicode? rest with
    | some (sign, rest) => .ok (some sign, rest)
    | none => .error .malformed
  | '\\' :: c :: rest => match simpleEscape? c with
    | some c => .ok (some [c], rest)
    | none => .error .malformed
  | c :: rest => if c.toNat < 32 || c = '\\' then .error .malformed else .ok (some [c], rest)
  | [] => .error .malformed

def readString : Nat → List Char → Reading (List Char × List Char)
  | 0, _ => .error .malformed
  | fuel + 1, text => do
    match ← readChar text with
    | (none, rest) => return ([], rest)
    | (some sign, rest) => do
      let (signs, rest) ← readString fuel rest
      return (sign ++ signs, rest)

def splitWhole : List Char → List Char × List Char
  | '0' :: rest => (['0'], rest)
  | text => (text.takeWhile Char.isDigit, text.dropWhile Char.isDigit)

/-- The fraction after a numeral's point; without digits there is none. -/
def splitFraction : List Char → List Char × List Char
  | '.' :: rest =>
    let digits := rest.takeWhile Char.isDigit
    if digits.isEmpty then ([], '.' :: rest) else (digits, rest.dropWhile Char.isDigit)
  | text => ([], text)

def splitExponent : List Char → Option Int × List Char
  | mark :: rest =>
    let (negative, body) := Text.splitSign rest
    match if mark = 'e' || mark = 'E' then Text.readNat? (body.takeWhile Char.isDigit) else none with
    | some value => (some (Text.applySign negative value), body.dropWhile Char.isDigit)
    | none => (none, mark :: rest)
  | [] => (none, [])

def readNumeral (negative : Bool) (text : List Char) : Reading (Value × List Char) := do
  let (whole, rest) := splitWhole text
  let (fraction, rest) := splitFraction rest
  let (exponent, rest) := splitExponent rest
  match Text.readNat? whole with
  | none => throw .malformed
  | some value =>
    if fraction.isEmpty && exponent.isNone then
      if Text.maxDigits < whole.length then throw .numeralTooLong
      return (.int (Text.applySign negative value), rest)
    else
      let digits := Nat.ofDigitChars 10 fraction value
      return (.real (Double.ofDecimal negative digits (exponent.getD 0 - fraction.length)), rest)

def afterWord? (word : String) (text : List Char) : Option (List Char) :=
  if word.toList.isPrefixOf text then some (text.drop word.length) else none

def words : List (String × Value) := [
  ("null", .null), ("true", .bool true), ("false", .bool false), ("NaN", .real (.nan (some 0))),
  ("Infinity", .real (.infinite false)), ("-Infinity", .real (.infinite true))]

def readScalar (text : List Char) : Reading (Value × List Char) :=
  match words.findSome? fun (word, value) => (afterWord? word text).map (value, ·) with
  | some found => .ok found
  | none => match text with
    | '-' :: rest => readNumeral true rest
    | text => readNumeral false text

mutual

def readValue (depth : Nat) : Nat → List Char → Reading (Value × List Char)
  | 0, _ => .error .malformed
  | fuel + 1, '"' :: text => do
    let (chars, rest) ← readString fuel text
    return (.text (String.ofList chars), rest)
  | fuel + 1, '[' :: text => match depth with
    | 0 => .error .tooDeep
    | depth + 1 => match skipSpace text with
      | ']' :: rest => .ok (.list [], rest)
      | text => do
        let (items, rest) ← readItems depth fuel text
        return (.list items, rest)
  | fuel + 1, '\x7b' :: text => match depth with
    | 0 => .error .tooDeep
    | depth + 1 => match skipSpace text with
      | '\x7d' :: rest => .ok (.object [], rest)
      | text => do
        let (fields, rest) ← readFields depth fuel text
        return (.object (Assoc.ofPairs fields), rest)
  | _ + 1, text => readScalar text

def readItems (depth : Nat) : Nat → List Char → Reading (List Value × List Char)
  | 0, _ => .error .malformed
  | fuel + 1, text => do
    let (item, rest) ← readValue depth fuel text
    match skipSpace rest with
    | ']' :: rest => return ([item], rest)
    | ',' :: rest =>
      let (items, rest) ← readItems depth fuel (skipSpace rest)
      return (item :: items, rest)
    | _ => throw .malformed

def readFields (depth : Nat) : Nat → List Char → Reading (List (String × Value) × List Char)
  | 0, _ => .error .malformed
  | fuel + 1, '"' :: text => do
    let (name, rest) ← readString fuel text
    match skipSpace rest with
    | ':' :: rest =>
      let (entry, rest) ← readValue depth fuel (skipSpace rest)
      match skipSpace rest with
      | '\x7d' :: rest => return ([(String.ofList name, entry)], rest)
      | ',' :: rest =>
        let (fields, rest) ← readFields depth fuel (skipSpace rest)
        return ((String.ofList name, entry) :: fields, rest)
      | _ => throw .malformed
    | _ => throw .malformed
  | _ + 1, _ => .error .malformed

end

def read [Host] (text : String) : Except Unreadable Value := do
  let chars := text.toList
  let (value, rest) ← readValue Host.reading (chars.length + 1) (skipSpace chars)
  if (skipSpace rest).isEmpty then return value else throw .malformed

end Gamebook.Json
