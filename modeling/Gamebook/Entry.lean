import Gamebook.Fault
import Gamebook.Text.Hex
import Gamebook.Text.Spelling

/-!
What stands under a name of a directory.
-/
namespace Gamebook

inductive Entry where
  | text (content : String)
  /-- Bytes that are no UTF-8 text. -/
  | garbled
  | directory
  deriving DecidableEq

def Entry.ofBytes (bytes : ByteArray) : Entry :=
  match String.fromUTF8? bytes with
  | some content => .text (Text.ofChars content.toList)
  | none => .garbled

def Entry.ofHex (digits : String) : Except Fault Entry :=
  match Text.readBytes? digits.toList with
  | some bytes => .ok (.ofBytes ⟨bytes.toArray⟩)
  | none => .error .badValue

def Entry.check : Entry → Except Fault Entry
  | .text content => if (Text.chars? content).isSome then .ok (.text content) else .error .unencodable
  | entry => .ok entry

/-- What is read of a text in a file: every line end becomes a line feed. -/
def Text.withLineFeeds : List Char → List Char
  | '\r' :: '\n' :: rest => '\n' :: withLineFeeds rest
  | '\r' :: rest => '\n' :: withLineFeeds rest
  | c :: rest => c :: withLineFeeds rest
  | [] => []

end Gamebook
