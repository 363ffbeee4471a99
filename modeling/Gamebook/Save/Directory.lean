import Gamebook.Path
import Gamebook.Save.Store

/-!
The directory of the saves as others use it, who may put anything there. A path is gone through part
by part; what it leads to below the directory stands there under the remaining path. No part has a
zero, and none is longer than the names that a directory takes.
-/
namespace Gamebook.SaveStore
variable [Host]

def directoryName : String := "saves"

/-- Whether parts lead to the directory of the saves or to one above it. -/
def isAbove (place : List String) : Bool := place.all (· = "..")

def enter (place : List String) (part : String) : List String :=
  if part = ".." && !isAbove place then place.dropLast
  else if part = directoryName && place = [".."] then []
  else place ++ [part]

def keyOf (place : List String) : String := "/".intercalate place

def walk (store : SaveStore) (place : List String) (part : String) : Except Fault (List String) :=
  if !isAbove place && store.entries.get? (keyOf place) ≠ some .directory then
    .error (if store.entries.contains (keyOf place) then .notDirectory else .noDirectory)
  else if Host.naming < (String.ofList (Text.chars part)).utf8ByteSize then .error .nameTooLong
  else .ok (enter place part)

def placeOf (store : SaveStore) (path : String) : Except Fault (List String) :=
  match Text.chars? path, Path.ofText path with
  | none, _ => .error .unencodable
  | some chars, place =>
    if chars.contains '\x00' then .error .badValue
    else if place.root ≠ "" then .error .noDirectory
    else place.parts.foldlM store.walk []

/-- A store with something in a place, and what was wrong with it. A text that no file can hold
leaves an empty file; a directory is only made where nothing is, and stays. -/
def putEntry (store : SaveStore) (place : List String) (entry : Entry) :
    SaveStore × Except Fault Unit :=
  let name := keyOf place
  let there := if isAbove place then some .directory else store.entries.get? name
  match there, entry with
  | some _, .directory => (store, .error .alreadyThere)
  | some .directory, _ => (store, .error .directoryInPlace)
  | _, entry => match entry.check with
    | .ok entry => (store.put name entry, .ok ())
    | .error fault => (store.put name (.text ""), .error fault)

def putAt (store : SaveStore) (path : String) (entry : Except Fault Entry) :
    SaveStore × Except Fault Unit :=
  let store := store.prepared
  match entry, store.placeOf path with
  | .ok entry, .ok place => store.putEntry place entry
  | .error fault, _ | _, .error fault => (store, .error fault)

def textAt (store : SaveStore) (path : String) : Except Fault (Option String) :=
  if store.directory?.isNone then .ok none
  else match store.placeOf path with
  | .ok place =>
    match if isAbove place then some .directory else store.entries.get? (keyOf place) with
    | none => .ok none
    | some (.text content) => .ok (some (String.ofList (Text.withLineFeeds content.toList)))
    | some .garbled => .error .undecodable
    | some .directory => .error .directoryInPlace
  | .error .nameTooLong => .error .nameTooLong
  | .error _ => .ok none

def fileNames? (store : SaveStore) : Option (List String) :=
  store.directory?.map fun entries =>
    (entries.names.filter fun name => !name.contains '/').mergeSort fun a b => !Text.before b a

end Gamebook.SaveStore
