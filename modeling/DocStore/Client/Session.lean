import DocStore.Client.Collection
import DocStore.Client.Cursor

/-!
# Sessions

A session is a client with cursors under names, and goes on step by step: commands are run,
cursors are opened, read and dropped, and the surroundings of the store change. Steps differ
between the two modes in nothing but the connections that they use and the way they wait.
-/

namespace DocStore

/-- A command in the making, which may need fresh identifiers. -/
abbrev Draft := IdSupply → Result (Command × IdSupply)

/-- A draft that needs none. -/
def Draft.ofCommand (command : Result Command) : Draft := fun ids =>
  command.map fun c => (c, ids)

/-- A step of a session. -/
inductive Action where
  /-- Runs a command; `single` asks for the first document only. -/
  | run (mode : Mode) (draft : Draft) (limit : Option Nat) (single : Bool)
  /-- Opens a cursor under a name, and drops the one that had the name. -/
  | openCursor (name : String) (mode : Mode) (draft : Draft) (limit : Option Nat)
  /-- Reads a number of items from a cursor. -/
  | take (name : String) (n : Nat)
  /-- Reads a cursor to its end and drops it. -/
  | readOut (name : String)
  /-- Drops a cursor. -/
  | drop (name : String)
  /-- Closes the client. -/
  | close
  /-- Something happens to the store. -/
  | adjust (a : Store.Adjustment)

/-- What a step answers. -/
inductive Outcome where
  | response (r : Response)
  /-- The input was refused before anything was sent. -/
  | refused (e : Error)
  | opened (cursor : Nat)
  | notOpened (r : Response)
  | items (items : List (Option (Result Json)))
  | rest (items : List (Result Json))
  | noCursor
  | done

/-- A client with its cursors. -/
structure Session where
  client : Client
  cursors : Dictionary String Cursor := []

namespace Session

/-- Makes a command, and takes the identifiers that it needs. -/
def draw (s : Session) (draft : Draft) : Result (Command × Session) := do
  let store := s.client.store
  let (command, ids) ← draft store.ids
  pure (command, { s with client := { s.client with store := { store with ids } } })

/-- The limit of a call: its own, or the one of the settings. -/
def limitOf (s : Session) (limit : Option Nat) : Option Nat := limit.or s.client.config.deadlineMs

/-- Runs a command. -/
def run (s : Session) (mode : Mode) (draft : Draft) (limit : Option Nat) (single : Bool) :
    Outcome × Session :=
  match s.draw draft with
  | .error e => (.refused e, s)
  | .ok (command, s) =>
    let (response, client) := s.client.run mode command (s.limitOf limit)
    (.response (if single then response.toSingle else response), { s with client })

/-- Drops the cursor under a name, if there is one. -/
def dropCursor (s : Session) (name : String) : Session :=
  match s.cursors.get? name with
  | some cursor =>
    { client := cursor.drop s.client, cursors := s.cursors.erase name }
  | none => s

/-- Opens a cursor under a name. -/
def openCursor (s : Session) (name : String) (mode : Mode) (draft : Draft)
    (limit : Option Nat) : Outcome × Session :=
  match s.draw draft with
  | .error e => (.refused e, s)
  | .ok (command, s) =>
    match s.client.openCursor mode command (s.limitOf limit) with
    | (.error response, client) => (.notOpened response, { s with client })
    | (.ok cursor, client) =>
      let s := { s with client }.dropCursor name
      (.opened cursor.id, { s with cursors := s.cursors.insert name cursor })

/-- Reads a number of items from the cursor under a name. -/
def take (s : Session) (name : String) (n : Nat) : Outcome × Session :=
  match s.cursors.get? name with
  | none => (.noCursor, s)
  | some cursor =>
    let (items, cursor, client) := cursor.take n s.client
    (.items items, { client, cursors := s.cursors.insert name cursor })

/-- Reads the cursor under a name to its end. -/
def readOut (s : Session) (name : String) : Outcome × Session :=
  match s.cursors.get? name with
  | none => (.noCursor, s)
  | some cursor =>
    let (items, client) := cursor.toList s.client
    (.rest items, { client, cursors := s.cursors.erase name })

/-- The session after a step, with the answer of the step. -/
def step (s : Session) : Action → Outcome × Session
  | .run mode draft limit single => s.run mode draft limit single
  | .openCursor name mode draft limit => s.openCursor name mode draft limit
  | .take name n => s.take name n
  | .readOut name => s.readOut name
  | .drop name =>
    if (s.cursors.get? name).isSome then (.done, s.dropCursor name) else (.noCursor, s)
  | .close => (.done, { s with client := s.client.close })
  | .adjust a =>
    (.done, { s with client := { s.client with store := s.client.store.adjust a } })

end Session

end DocStore
