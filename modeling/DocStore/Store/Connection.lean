import DocStore.Store.Cursor

/-!
# Connections

A connection carries calls to the store and remembers the cursors that were opened through it.
Every call first waits for the latency of the store; a caller with a deadline does not wait past
it.
-/

namespace DocStore

/-- How long a caller waits for a call. -/
inductive Patience where
  /-- On its thread, up to an instant. -/
  | blocked (deadline : Option Nat)
  /-- Suspended, for a number of milliseconds. -/
  | suspended (limit : Option Nat)

/-- A connection, with the cursors opened through it and not seen to end. -/
structure Connection where
  cursors : List Nat := []

namespace Store

/-- The failure of a call to a store that cannot be reached. -/
def unreachableError : TransportError := .unreachable "memory store is unreachable"

/-- Waits for the latency of the store, up to the deadline of the caller. -/
def delay (s : Store) (p : Patience) : TransportResult Unit × Store :=
  if s.unreachable then (.error unreachableError, s)
  else match s.latency, p with
    | none, _ => (.ok (), s)
    | some latency, .blocked (some deadline) =>
      let (now, s) := s.readClock
      if deadline < now + latency then
        (.error (.timeout (deadline - now)), s.wait (deadline - now))
      else (.ok (), s.wait latency)
    | some latency, .suspended (some limit) =>
      if limit < latency then (.error (.timeout limit), s.wait limit)
      else (.ok (), s.wait latency)
    | some latency, _ => (.ok (), s.wait latency)

/-- Waits for changes that do not come, until the deadline. Without a deadline the wait has no end, and
the read would never return; here it fails at once, with a time-out of zero that is no answer of a
store, so that what comes after it can still be looked at. -/
def awaitChange (s : Store) (p : Patience) : TransportError × Store :=
  match p with
  | .blocked (some deadline) =>
    let (now, s) := s.readClock
    (.timeout (deadline - now), s.wait (deadline - now))
  | .suspended (some limit) =>
    let left := limit - s.latency.getD 0
    (.timeout limit, s.wait left)
  | _ => (.timeout 0, s)

/-- Opens a connection. -/
def connect (s : Store) (mode : Mode) : TransportResult Connection × Store :=
  if s.unreachable then (.error unreachableError, s)
  else match mode with
    | .sync => (.ok {}, { s with blockingConnections := s.blockingConnections + 1 })
    | .async => (.ok {}, { s with asyncConnections := s.asyncConnections + 1 })

end Store

namespace Connection

/-- Remembers the cursor of a batch that is not the last. -/
def record (c : Connection) (b : Batch) : Connection :=
  if b.isLast || c.cursors.contains b.cursor then c else ⟨c.cursors ++ [b.cursor]⟩

/-- Forgets a cursor. -/
def forget (c : Connection) (cursor : Nat) : Connection := ⟨c.cursors.filter (· != cursor)⟩

/-- Executes a command. -/
def execute (c : Connection) (p : Patience) (command : Command) (s : Store) :
    TransportResult Reply × Connection × Store :=
  match s.delay p with
  | (.error e, s) => (.error e, c, s)
  | (.ok (), s) =>
    let (result, s) := s.execute command
    (result, c, s)

/-- Opens a cursor and reads its first documents. -/
def openCursor (c : Connection) (p : Patience) (command : Command) (size : Nat) (s : Store) :
    TransportResult Batch × Connection × Store :=
  match s.delay p with
  | (.error e, s) => (.error e, c, s)
  | (.ok (), s) =>
    match s.openCursor command size with
    | (.ok batch, s) => (.ok batch, c.record batch, s)
    | (.error e, s) => (.error e, c, s)

/-- Reads the next documents of a cursor. -/
def getMore (c : Connection) (p : Patience) (cursor size : Nat) (s : Store) :
    TransportResult Batch × Connection × Store :=
  match s.delay p with
  | (.error e, s) => (.error e, c, s)
  | (.ok (), s) =>
    match s.nextBatch cursor size with
    | (.error e, s) => (.error e, c, s)
    | (.ok none, s) =>
      let (e, s) := s.awaitChange p
      (.error e, c, s)
    | (.ok (some batch), s) => (.ok batch, if batch.isLast then c.forget cursor else c, s)

/-- Closes a cursor. -/
def killCursor (c : Connection) (cursor : Nat) (s : Store) : Connection × Store :=
  (c.forget cursor, s.killCursor cursor)

/-- Makes a connection usable again after a call was given up: closes the cursors opened through
it. -/
def reset (c : Connection) (s : Store) : Connection × Store :=
  let s := c.cursors.foldl Store.killCursor s
  ({}, { s with resets := s.resets + 1 })

end Connection

end DocStore
