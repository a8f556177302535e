import DocStore.Client.Basic

/-!
# Cursors of a client

A cursor reads the result of a command in batches over a connection of its own, which it keeps
until it is dropped. Dropping a cursor that is not exhausted closes it on the store.
-/

namespace DocStore

/-- A cursor of a client. -/
structure Cursor where
  mode : Mode
  guard : Guard Connection
  /-- The cursor on the store, zero once it is exhausted. -/
  id : Nat
  /-- Documents that were fetched and not yet read. -/
  buffer : List Json
  /-- How many milliseconds each fetch may take. -/
  limit : Option Nat
  /-- Whether a fetch has failed. -/
  failed : Bool := false

namespace Guard

/-- Closes a cursor of the store, unless it is exhausted. -/
def kill (g : Guard Connection) (cursor : Nat) (s : Store) : Guard Connection × Store :=
  if cursor == 0 then (g, s)
  else
    let (connection, s) := g.connection.killCursor cursor s
    ({ g with connection }, s)

end Guard

namespace Client

/-- Ends a call that opened no cursor. -/
def fail (c : Client) (call : Call) (e : TransportError) : Except Response Cursor × Client :=
  let (result, c) := c.settle call (.error e : TransportResult Reply)
  let (response, c) := c.finish call (.ofResult result)
  (.error response, c)

/-- Hands over a cursor whose first batch has arrived, unless the time is over by now. A blocked
caller looks at the clock twice. A cursor that is late at the first look is closed on the
store. -/
def handOver (c : Client) (call : Call) (g : Guard Connection) (batch : Batch) :
    Except Response Cursor × Client :=
  let (late, store) := call.patience.isLate c.store
  if late then
    let (g, store) := g.kill batch.cursor store
    ({ c with store }.release call.mode g).fail call (.timeout 0)
  else
    let (result, c) := { c with store }.settle call (.ok batch)
    match result with
    | .error e =>
      let (response, c) := (c.release call.mode g).finish call (.ofResult (.error e))
      (.error response, c)
    | .ok batch =>
      let (_, c) := c.finish call (.documents batch.documents)
      (.ok { mode := call.mode, guard := g, id := batch.cursor, buffer := batch.documents,
             limit := call.limit }, c)

/-- Opens a cursor on the result of a command, or answers why there is none. -/
def openCursor (c : Client) (mode : Mode) (command : Command) (limit : Option Nat) :
    Except Response Cursor × Client :=
  let (call, c) := c.begin mode command limit
  match c.acquire call with
  | (.error e, c) => c.fail call e
  | (.ok g, c) =>
    let (result, g, store) := g.call
      (fun connection s => connection.openCursor call.patience command c.config.batchSize s)
      c.store
    match result with
    | .error e => ({ c with store }.release mode g).fail call e
    | .ok batch => { c with store }.handOver call g batch

end Client

namespace Cursor

/-- Whether there is nothing to fetch any more. -/
def isDone (cur : Cursor) : Bool := cur.failed || cur.id == 0

/-- How long a fetch that begins now waits. -/
def patience (cur : Cursor) (now : Nat) : Patience :=
  match cur.mode with
  | .sync => .blocked (cur.limit.map (now + ·))
  | .async => .suspended cur.limit

/-- Fetches the next batch. One that arrives late is lost. -/
def fetch (cur : Cursor) (c : Client) : Result Unit × Cursor × Client :=
  let (now, store) := c.store.readClock
  let p := cur.patience now
  let (result, guard, store) := cur.guard.call
    (fun connection s => connection.getMore p cur.id c.config.batchSize s) store
  let (late, store) := p.isLate store
  let cur := { cur with guard }
  let c := { c with store }
  match result, cur.limit with
  | .error (.timeout _), some limit => (.error (.timeout limit), { cur with failed := true }, c)
  | .error e, _ => (.error e.toError, { cur with failed := true }, c)
  | .ok batch, limit =>
    let cur := { cur with id := batch.cursor }
    if late then (.error (.timeout (limit.getD 0)), { cur with failed := true }, c)
    else (.ok (), { cur with buffer := cur.buffer ++ batch.documents }, c)

/-- The next document, or the failure to fetch it; `none` at the end. A batch of a cursor that
goes on is never empty, so one fetch is enough. -/
def next (cur : Cursor) (c : Client) : Option (Result Json) × Cursor × Client :=
  match cur.buffer with
  | doc :: rest => (some (.ok doc), { cur with buffer := rest }, c)
  | [] =>
    if cur.isDone then (none, cur, c)
    else match cur.fetch c with
      | (.error e, cur, c) => (some (.error e), cur, c)
      | (.ok (), cur, c) =>
        match cur.buffer with
        | doc :: rest => (some (.ok doc), { cur with buffer := rest }, c)
        | [] => (none, cur, c)

/-- Reads a number of items. -/
def take : Nat → Cursor → Client → List (Option (Result Json)) × Cursor × Client
  | 0, cur, c => ([], cur, c)
  | n + 1, cur, c =>
    let (item, cur, c) := cur.next c
    let (items, cur, c) := take n cur c
    (item :: items, cur, c)

/-- Reads up to the end or to the first failure, with a number of fetches at most. -/
def readOut : Nat → Cursor → Client → List (Result Json) × Cursor × Client
  | 0, cur, c => (cur.buffer.map .ok, { cur with buffer := [] }, c)
  | n + 1, cur, c =>
    let items := cur.buffer.map .ok
    let cur := { cur with buffer := [] }
    if cur.isDone then (items, cur, c)
    else match cur.fetch c with
      | (.error e, cur, c) => (items ++ [.error e], cur, c)
      | (.ok (), cur, c) =>
        let (later, cur, c) := readOut n cur c
        (items ++ later, cur, c)

/-- Gives the cursor up: closes it on the store and returns its connection. -/
def drop (cur : Cursor) (c : Client) : Client :=
  let (guard, store) := cur.guard.kill cur.id c.store
  { c with store }.release cur.mode guard

/-- All items that are left, up to the first failure. Each fetch brings one document or event
nearer to the end. -/
def toList (cur : Cursor) (c : Client) : List (Result Json) × Client :=
  let (items, cur, c) := readOut (c.store.pending cur.id + 1) cur c
  (items, cur.drop c)

end Cursor

end DocStore
