/-!
Texts that may hold halves of surrogate pairs. No character is such a half, so a half is spelled by
two: a mark, and a character in its place. The mark as a character of its own is spelled twice. So
every text has one spelling, and the spelling of joined texts is their joined spellings.
-/
namespace Gamebook.Text

def mark : Char := Char.ofNat 0x10ffff

/-- How far the character in the place of a half stands behind it. -/
def halfShift : Nat := 0xfd000

def spellHalf (code : Nat) : List Char := [mark, Char.ofNat (code + halfShift)]

def spellChar (c : Char) : List Char := if c = mark then [mark, mark] else [c]

def ofChars (chars : List Char) : String := String.ofList (chars.flatMap spellChar)

/-- The signs of a spelled text, each a character or the two that spell the mark or a half. -/
def signs : List Char → List (List Char)
  | [] => []
  | [c] => [[c]]
  | c :: d :: rest => if c = mark then [c, d] :: signs rest else [c] :: signs (d :: rest)

theorem flatten_signs (text : List Char) : (signs text).flatten = text := by
  fun_induction signs text with
  | case1 => rfl
  | case2 c => rfl
  | case3 d rest ih => simp [ih]
  | case4 c d rest isChar ih => simp [ih]

def size (text : List Char) : Nat := (signs text).length

def half? : List Char → Option Nat
  | [_, c] => if c = mark then none else some (c.toNat - halfShift)
  | _ => none

def charOf (sign : List Char) : Char := sign.headD mark

def codeOf (sign : List Char) : Nat := (half? sign).getD (charOf sign).toNat

/-- Whether a text comes before another, going by the codes of the first signs that differ. -/
def before (a b : String) : Bool :=
  decide ((signs a.toList).map codeOf < (signs b.toList).map codeOf)

def chars (text : String) : List Char := (signs text.toList).map charOf

/-- The characters of a text, if it has no halves, which no file can hold. -/
def chars? (text : String) : Option (List Char) :=
  if (signs text.toList).all fun sign => (half? sign).isNone then some (chars text) else none

end Gamebook.Text
