import Gamebook.Path
import Gamebook.Entry
import Gamebook.Failure
import Gamebook.Json.Reader
import Gamebook.Json.Writer

/-!
The player's settings and where they are kept. Whatever a settings file does not say properly has its
default.
-/
namespace Gamebook

structure Config where
  storiesPath : Option String
  showLocked : Bool
  deriving DecidableEq

namespace Config

def default : Config := ⟨none, true⟩

def ofFields (fields : Table Value) : Config where
  storiesPath := (Value.field fields "stories_path").text?.filter (· != "")
  showLocked := ((Value.field fields "show_locked_choices").bool?).getD default.showLocked

def ofDocument (document : Value) : Except Fault Config :=
  match document with
  | .object fields => .ok (ofFields fields)
  | _ => .error .missingPart

def toValue (config : Config) : Value :=
  .object [("stories_path", (config.storiesPath.map Value.text).getD .null),
    ("show_locked_choices", .bool config.showLocked)]

def load [Host] (entry : Option Entry) : Outcome Config :=
  match entry with
  | some (.text content) => match Json.read content with
    | .ok (.object fields) => .ok (ofFields fields)
    | .error .tooDeep => .error (.fault .tooDeep)
    | _ => .ok default
  | _ => .ok default

def write (config : Config) : String := Json.write .file config.toValue

end Config

structure DataPaths where
  user : Path
  saves : Path
  config : Path
  deriving DecidableEq

namespace DataPaths

/-- A setting of the surroundings as it was made. Settings are bytes that a zero ends; bytes that
are no text are spelled as low halves of surrogate pairs. -/
def setting (text : String) : Except Fault String :=
  let codes := (Text.signs text.toList).map Text.codeOf
  if codes.any fun code => 0xd800 ≤ code && code < 0xe000 && !(0xdc80 ≤ code && code < 0xdd00) then
    .error .unencodable
  else if codes.contains 0 then .error .badValue
  else .ok text

/-- The home directory that a setting names; without a name it is the root. -/
def homeOf (setting : String) : Outcome Path :=
  let name := String.ofList (setting.toList.reverse.dropWhile (· = '/')).reverse
  if name.toList.head? = some '~' then .error (.fault .homeless)
  else .ok (.ofText (if name = "" then "/" else name))

def ofUser (user : Path) : DataPaths := ⟨user, user.child "saves", user.child "config.json"⟩

def locate (chosen : Option String) (home : String) : Outcome DataPaths := do
  let chosen ← Fault.lift (chosen.mapM setting)
  let home ← Fault.lift (setting home)
  match chosen.filter (· != "") with
  | some directory => return ofUser (.ofText directory)
  | none => return ofUser (((← homeOf home).child ".config").child "cyoa_engine")

end DataPaths
end Gamebook
