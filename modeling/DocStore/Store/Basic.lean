import DocStore.Clock
import DocStore.Dictionary
import DocStore.Identifier
import DocStore.Store.Event
import DocStore.Transport.Basic

/-!
# The store

Collections of documents, the log of their changes, and the cursors that are open on them. The
store also has what its surroundings do to it: faults that the next calls meet, a latency, and
whether it can be reached.
-/

namespace DocStore

/-- What a cursor still has to deliver. -/
inductive CursorState where
  /-- The rest of a result that was computed when the cursor was opened. -/
  | buffered (docs : List Json)
  /-- The events of a collection from a position in the log on, through a pipeline. -/
  | tailing (collection : String) (pipeline : List Json) (position : Nat)

/-- Whether a connection blocks its caller or suspends it. -/
inductive Mode where
  | sync
  | async
deriving DecidableEq, Repr

namespace Mode

/-- The name of a mode. -/
def name : Mode → String
  | .sync => "sync"
  | .async => "async"

end Mode

/-- A store of documents. -/
structure Store where
  /-- The name of the database. -/
  name : String := "doclite"
  collections : Dictionary String (List Json) := []
  /-- The changes so far, the earliest first. -/
  events : List ChangeEvent := []
  cursors : Dictionary Nat CursorState := []
  nextCursor : Nat := 1
  /-- The faults that the next commands meet, one each. -/
  faults : List TransportError := []
  /-- How long each call takes, in milliseconds. -/
  latency : Option Nat := none
  unreachable : Bool := false
  ids : IdSupply := {}
  clock : Clock := {}
  /-- When the event at a position of the log happens, in milliseconds since the beginning of the
  year 1970; in the middle of the year 2025, if nothing else is known. -/
  calendar : Nat → Nat := fun _ => 1750000000000
  /-- How many connections were opened for blocking callers. -/
  blockingConnections : Nat := 0
  /-- How many connections were opened for suspended callers. -/
  asyncConnections : Nat := 0
  /-- How many commands arrived. -/
  commands : Nat := 0
  /-- How many times a connection was reset. -/
  resets : Nat := 0

namespace Store

/-- The documents of a collection, in the order in which they were inserted. -/
def documents (s : Store) (collection : String) : List Json :=
  (s.collections.get? collection).getD []

/-- Replaces the documents of a collection. -/
def setDocuments (s : Store) (collection : String) (docs : List Json) : Store :=
  { s with collections := s.collections.insert collection docs }

/-- Adds changes of a collection to the log, each with the identifier of its document. -/
def log (s : Store) (collection : String) (changes : List (Json × Change)) : Store :=
  { s with events := s.events ++ changes.mapIdx fun i (id, change) =>
      ⟨s.name, collection, id, change, s.calendar (s.events.length + i)⟩ }

/-- Reads the clock. -/
def readClock (s : Store) : Nat × Store :=
  let (now, clock) := s.clock.read
  (now, { s with clock })

/-- The store after a wait. -/
def wait (s : Store) (ms : Nat) : Store := { s with clock := s.clock.wait ms }

/-- Adds a document with an identifier to some documents. -/
def addIdentified (docs : List Json) (doc : Json) (ids : IdSupply) : List Json × IdSupply :=
  match doc with
  | .obj fs =>
    let (_, fs, ids) := Fields.identify false fs ids
    (docs ++ [.obj fs], ids)
  | v => (docs ++ [v], ids)

/-- What the surroundings of a store do to it. -/
inductive Adjustment where
  | seed (collection : String) (docs : List Json)
  /-- One of the next commands fails. -/
  | failNext (e : TransportError)
  | setLatency (ms : Option Nat)
  | setUnreachable (unreachable : Bool)

/-- Puts documents into a collection as they are, without events. -/
def seed (s : Store) (collection : String) (docs : List Json) : Store :=
  let (docs, ids) := docs.foldl (fun (acc, ids) d => addIdentified acc d ids)
    (s.documents collection, s.ids)
  { s.setDocuments collection docs with ids }

/-- The store after its surroundings have acted on it. -/
def adjust (s : Store) : Adjustment → Store
  | .seed collection docs => s.seed collection docs
  | .failNext e => { s with faults := s.faults ++ [e] }
  | .setLatency latency => { s with latency }
  | .setUnreachable unreachable => { s with unreachable }

/-- How many documents or events an open cursor has before it at most. -/
def pending (s : Store) (cursor : Nat) : Nat :=
  match s.cursors.get? cursor with
  | some (.buffered docs) => docs.length
  | some (.tailing _ _ position) => s.events.length - position
  | none => 0

end Store

end DocStore
