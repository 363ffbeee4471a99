import Gamebook.Save.Store

/-!
What is asked of a store and what it answers. A save may be asked for by any value; nothing is done
unless that is the name of one.
-/
namespace Gamebook.SaveStore
variable [Host]

inductive Action where
  | find
  | read
  | write (document : Value)
  | delete
  | lock

inductive Request where
  | list
  | act (id : SaveId) (action : Action)

inductive Reply where
  | listed (ids : List SaveId)
  | found (isThere : Bool)
  | document (fields : Table Value)
  | written
  | deleted (wasThere : Bool)
  | locked

/-- The store after an action and its answer. -/
def act (store : SaveStore) (id : SaveId) (action : Action) : SaveStore × Outcome Reply :=
  match action with
  | .find => (store, (store.contains id).map .found)
  | .read => (store, (store.read id).map .document)
  | .write document =>
    let (next, outcome) := store.write id document
    (next, outcome.map fun _ => .written)
  | .delete => match store.delete id with
    | .ok (some next) => (next, .ok (.deleted true))
    | .ok none => (store, .ok (.deleted false))
    | .error failure => (store, .error failure)
  | .lock => (store, .ok .locked)

theorem act_write (store : SaveStore) (id : SaveId) (document : Value) :
    store.act id (.write document) =
      ((store.write id document).1, (store.write id document).2.map fun _ => .written) := rfl

def serve (store : SaveStore) (request : Request) : SaveStore × Outcome Reply :=
  match request with
  | .list => (store, .ok (.listed store.ids))
  | .act id action => store.act id action

def actOn (store : SaveStore) (save : Value) (action : Action) :
    SaveStore × Outcome Reply :=
  match SaveId.ofValue save with
  | .ok id => store.act id action
  | .error failure => (store, .error failure)

end Gamebook.SaveStore
