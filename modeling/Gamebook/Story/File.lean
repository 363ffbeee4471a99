import Gamebook.Entry
import Gamebook.Story.Document

/-!
Libraries of story files.
-/
namespace Gamebook.Library

/-- The library of the file with the given path, from what stands there, if anything does. -/
def ofFile [Host] (path : String) (entry : Option Entry) : Outcome Library :=
  match entry with
  | none => .error (.storyFile (.missing path))
  | some .directory => .error (.storyFile (.unreadable path))
  | some .garbled => .error (.fault .undecodable)
  | some (.text content) => match Json.read content with
    | .ok (.object document) => ofDocument (.ofTable document)
    | .ok _ => .error (.story (.topLevel path))
    | .error .malformed => .error (.storyFile (.notJson path))
    | .error .numeralTooLong => .error (.fault .badValue)
    | .error .tooDeep => .error (.fault .tooDeep)

end Gamebook.Library
