import Gamebook.Text.Hex
import Gamebook.Text.Printable
import Gamebook.Text.Spelling

/-!
Quoted text for messages: single quotes unless the text holds a single quote and no double one; the
quote in use and the backslash are escaped, and so is every character that is not printable.
-/
namespace Gamebook.Text

def escapeCode (code : Nat) : List Char :=
  if code < 256 then '\\' :: 'x' :: hexDigits 2 code
  else if code < 65536 then '\\' :: 'u' :: hexDigits 4 code
  else '\\' :: 'U' :: hexDigits 8 code

def escapeChar (quote : Char) (c : Char) : List Char :=
  if c = quote || c = '\\' then ['\\', c]
  else if c = '\n' then ['\\', 'n']
  else if c = '\r' then ['\\', 'r']
  else if c = '\t' then ['\\', 't']
  else if isPrintable c then [c]
  else escapeCode c.toNat

/-- Neither the mark nor a half is printable. -/
def escapeIn (quote : Char) : List Char → List Char
  | [c] => escapeChar quote c
  | sign => escapeCode (codeOf sign)

def quoteFor (text : List Char) : Char :=
  if text.contains '\'' && !text.contains '"' then '"' else '\''

def quoted (text : String) : String :=
  let quote := quoteFor text.toList
  String.ofList (quote :: ((signs text.toList).flatMap (escapeIn quote) ++ [quote]))

end Gamebook.Text
