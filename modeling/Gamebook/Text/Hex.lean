import Gamebook.Text.CharClass

/-!
Hexadecimal digits: codes with a number of them, and bytes with two each.
-/
namespace Gamebook.Text

def hexDigits (width : Nat) (code : Nat) : List Char :=
  let digits := Nat.toDigits 16 code
  List.replicate (width - digits.length) '0' ++ digits

def hexValue? (c : Char) : Option Nat :=
  if c.isDigit then some (c.toNat - 48)
  else if 'a' ≤ c && c ≤ 'f' then some (c.toNat - 87)
  else if 'A' ≤ c && c ≤ 'F' then some (c.toNat - 55)
  else none

/-- Bytes written with two digits each; blanks may stand around them. -/
def readBytes? : List Char → Option (List UInt8)
  | [] => some []
  | [c] => if isAsciiBlank c then some [] else none
  | high :: low :: rest =>
    if isAsciiBlank high then readBytes? (low :: rest)
    else do
      let byte := 16 * (← hexValue? high) + (← hexValue? low)
      return UInt8.ofNat byte :: (← readBytes? rest)

end Gamebook.Text
