import Gamebook.Entry
import Gamebook.Json.Reader
import Gamebook.Json.Writer
import Gamebook.Save.Id
import Gamebook.State.Snapshot

/-!
Saved games as files of one directory, one JSON document each. The directory is made before the
first write; other files may stand in it, and saves may be anything that a file can be. Drafts stand
beside the saves that are written, under longer names.
-/
namespace Gamebook

structure SaveStore where
  /-- What stands in the directory and below it, or none before it was made. -/
  directory? : Option (Table Entry)

namespace SaveStore
variable [Host]

def empty : SaveStore := ⟨none⟩

def entries (store : SaveStore) : Table Entry := store.directory?.getD []

def put (store : SaveStore) (file : String) (entry : Entry) : SaveStore :=
  ⟨some (store.entries.insert file entry)⟩

/-- Whether the name of a save cannot be looked up, which a directory hinders only if it is
there. -/
def refuses (store : SaveStore) (id : SaveId) : Bool :=
  Host.room < id.fileName.length ||
    store.directory?.isSome && Host.naming < id.fileName.length

def contains (store : SaveStore) (id : SaveId) : Outcome Bool :=
  if store.refuses id then .error (.fault .nameTooLong)
  else .ok (store.entries.contains id.fileName)

def read (store : SaveStore) (id : SaveId) : Outcome (Table Value) :=
  if store.refuses id then .error (.save (.unreadable id.text))
  else match store.entries.get? id.fileName with
  | none => .error (.noEntry (.text id.text))
  | some .directory => .error (.save (.unreadable id.text))
  | some .garbled => .error (.fault .undecodable)
  | some (.text content) => match Json.read content with
    | .ok (.object document) => .ok document
    | .ok _ => .error (.save (.notObject id.text))
    | .error .malformed => .error (.save (.notJson id.text))
    | .error .numeralTooLong => .error (.fault .badValue)
    | .error .tooDeep => .error (.fault .tooDeep)

def prepared (store : SaveStore) : SaveStore := ⟨some store.entries⟩

def draftMarks : Nat := 14

def draft (store : SaveStore) (id : SaveId) (document : Value) : Host.Draft :=
  Host.draft store.entries.names id.text document

def draftOf (store : SaveStore) (id : SaveId) (document : Value) : String :=
  Host.draftName id.text (store.draft id document).letters

/-- The store with the draft of a document that could not be written out, in the place of nothing
that is there. -/
def abandon (store : SaveStore) (id : SaveId) (document : Value) : SaveStore :=
  if store.entries.contains (store.draftOf id document) then store
  else store.put (store.draftOf id document) (.text (store.draft id document).content)

/-- Writes a document in the place of what the save held before. The directory is made and a draft
written first, which stays if the document is at fault. -/
def write (store : SaveStore) (id : SaveId) (document : Value) (isSortable : Bool := true) :
    SaveStore × Outcome Unit :=
  let store := store.prepared
  if Host.drafting < id.text.length + draftMarks then (store, .error (.fault .nameTooLong))
  else if !document.isWritable then (store.abandon id document, .error (.fault .badValue))
  else if !isSortable then (store.abandon id document, .error (.fault .wrongKind))
  else if store.entries.get? id.fileName = some .directory then
    (store, .error (.save (.unwritable id.text)))
  else (store.put id.fileName (.text (Json.write .file document)), .ok ())

def delete (store : SaveStore) (id : SaveId) : Outcome (Option SaveStore) :=
  if store.refuses id then .error (.fault .nameTooLong)
  else match store.entries.get? id.fileName with
  | none => .ok none
  | some .directory => .error (.fault .directoryInPlace)
  | some _ => .ok (some { store with directory? := store.directory?.map (·.erase id.fileName) })

def ids (store : SaveStore) : List SaveId :=
  (store.entries.names.filterMap SaveId.ofFileName?).mergeSort fun a b => !(b.text < a.text)

def load (store : SaveStore) (id : SaveId) : Outcome GameState :=
  match store.read id with
  | .error (.noEntry key) => .error (.notFound .save key)
  | .error failure => .error failure
  | .ok document => match Snapshot.restore (.object document) with
    | .error (.state field problem) => .error (.save (.corrupt id.text field problem))
    | outcome => outcome

end SaveStore
end Gamebook
