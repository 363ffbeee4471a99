import Gamebook.Failure

/-!
Names of saved games: an ASCII letter or digit, then letters, digits, underscores, points and
dashes. One line feed at the end is let through.
-/
namespace Gamebook

namespace SaveId

def isIdChar (c : Char) : Bool := c.isAlphanum || c = '_' || c = '.' || c = '-'

def isPlain : List Char → Bool
  | [] => false
  | c :: rest => c.isAlphanum && rest.all isIdChar

def isValid (text : List Char) : Bool :=
  isPlain (if text.getLast? = some '\n' then text.dropLast else text)

end SaveId

structure SaveId where
  text : String
  valid : SaveId.isValid text.toList = true
  deriving DecidableEq

namespace SaveId

def ofText? (text : String) : Option SaveId :=
  if valid : isValid text.toList = true then some ⟨text, valid⟩ else none

def ofValue (value : Value) : Outcome SaveId :=
  match value.text?.bind ofText? with
  | some id => .ok id
  | none => Failure.showing value (.saveId value)

def extension : String := ".json"

def fileName (id : SaveId) : String := id.text ++ extension

def ofFileName? (name : String) : Option SaveId :=
  if extension.toList.isSuffixOf name.toList then
    ofText? (String.ofList (name.toList.take (name.length - extension.length)))
  else none

end SaveId
end Gamebook
