import DocStore.Client.Config
import DocStore.Client.Pool
import DocStore.Response
import DocStore.Schema.Basic
import DocStore.Store.Connection

/-!
# Clients

A client sends commands to a store over two pools of connections, one for callers that block and
one for callers that are suspended. It keeps a record of its calls, and bounds them in time: a
call that ends after its limit counts as timed out.
-/

namespace DocStore

/-- What observers of a client see of a call. -/
inductive CallRecord where
  /-- A command is about to be sent. -/
  | started (mode : Mode) (command : Command)
  /-- A command was answered. -/
  | ended (mode : Mode) (command : Command) (response : Response)

/-- A client of a store. -/
structure Client where
  config : Config
  registry : Registry
  store : Store
  blockingPool : Pool Connection
  asyncPool : Pool Connection
  /-- The calls so far, the earliest first. -/
  records : List CallRecord := []

/-- A call in progress. -/
structure Call where
  mode : Mode
  command : Command
  /-- How many milliseconds the call may take. -/
  limit : Option Nat
  /-- When the call began. -/
  started : Nat

namespace Call

/-- When the time of the call is over. -/
def deadline (call : Call) : Option Nat := call.limit.map (call.started + ·)

/-- How long the caller waits. -/
def patience (call : Call) : Patience :=
  match call.mode with
  | .sync => .blocked call.deadline
  | .async => .suspended call.limit

end Call

namespace Patience

/-- Whether a caller that blocks finds its deadline passed; it looks at the clock to know. A
suspended caller is woken in time instead. -/
def isLate (p : Patience) (s : Store) : Bool × Store :=
  match p with
  | .blocked (some deadline) =>
    let (now, s) := s.readClock
    (decide (deadline ≤ now), s)
  | _ => (false, s)

/-- Waits for a slot that does not become free. -/
def awaitSlot (p : Patience) (timeoutMs : Nat) (s : Store) : TransportError × Store :=
  match p with
  | .blocked deadline =>
    let (now, s) := s.readClock
    let last := match deadline with
      | some d => min (now + timeoutMs) d
      | none => now + timeoutMs
    (.poolExhausted, s.wait (last - now))
  | .suspended (some limit) =>
    if limit < timeoutMs then (.timeout limit, s.wait limit)
    else (.poolExhausted, s.wait timeoutMs)
  | .suspended none => (.poolExhausted, s.wait timeoutMs)

/-- The result of a call as its caller sees it: a call that timed out, or that ended after its
time, timed out after its limit. -/
def settle {α : Type} (p : Patience) (limit : Option Nat) (result : TransportResult α)
    (s : Store) : TransportResult α × Store :=
  match limit with
  | none => (result, s)
  | some limit =>
    if result.isTimeout then (.error (.timeout limit), s)
    else
      let (late, s) := p.isLate s
      (if late then .error (.timeout limit) else result, s)

end Patience

namespace Client

/-- A pool as the settings ask for. -/
def newPool (config : PoolConfig) : Pool Connection :=
  { maxSize := config.maxSize, acquireTimeoutMs := config.acquireTimeoutMs }

/-- A client with checked settings. -/
def new (config : Config) (registry : Registry) (store : Store) : Result Client := do
  config.validate
  pure { config, registry, store, blockingPool := newPool config.pool,
         asyncPool := newPool config.pool }

/-- How connections of a mode are kept. -/
def connector (mode : Mode) : Connector Connection Store where
  connect s := s.connect mode
  reset := Connection.reset
  isHealthy _ s := !s.unreachable

/-- The pool of a mode. -/
def pool (c : Client) : Mode → Pool Connection
  | .sync => c.blockingPool
  | .async => c.asyncPool

/-- The client with a pool and a store replaced. -/
def withPool (c : Client) (mode : Mode) (p : Pool Connection) (s : Store) : Client :=
  match mode with
  | .sync => { c with blockingPool := p, store := s }
  | .async => { c with asyncPool := p, store := s }

/-- Adds to the record of calls. -/
def record (c : Client) (r : CallRecord) : Client := { c with records := c.records ++ [r] }

/-- Begins a call. -/
def begin (c : Client) (mode : Mode) (command : Command) (limit : Option Nat) : Call × Client :=
  let (started, store) := c.store.readClock
  (⟨mode, command, limit, started⟩, { c with store }.record (.started mode command))

/-- Ends a call with its response. -/
def finish (c : Client) (call : Call) (response : Response) : Response × Client :=
  (response, c.record (.ended call.mode call.command response))

/-- Takes a connection for a call, waiting for a slot if there is none. -/
def acquire (c : Client) (call : Call) : TransportResult (Guard Connection) × Client :=
  let pool := c.pool call.mode
  if !pool.closed && !pool.hasSlot then
    let (e, store) := call.patience.awaitSlot pool.acquireTimeoutMs c.store
    (.error e, { c with store })
  else
    let (result, p, s) := pool.acquire (connector call.mode) c.store
    (result, c.withPool call.mode p s)

/-- Takes the connection of a guard back. -/
def release (c : Client) (mode : Mode) (g : Guard Connection) : Client :=
  let (p, s) := (c.pool mode).release (connector mode) g c.store
  c.withPool mode p s

/-- Sends a command over a connection of the pool. -/
def send (c : Client) (call : Call) : TransportResult Reply × Client :=
  match c.acquire call with
  | (.error e, c) => (.error e, c)
  | (.ok g, c) =>
    let (result, g, store) :=
      g.call (fun connection s => connection.execute call.patience call.command s) c.store
    (result, { c with store }.release call.mode g)

/-- The end of a call as its caller sees it. -/
def settle {α : Type} (c : Client) (call : Call) (result : TransportResult α) :
    TransportResult α × Client :=
  let (result, store) := call.patience.settle call.limit result c.store
  (result, { c with store })

/-- Runs a command to its response. -/
def run (c : Client) (mode : Mode) (command : Command) (limit : Option Nat) : Response × Client :=
  let (call, c) := c.begin mode command limit
  let (result, c) := c.send call
  let (result, c) := c.settle call result
  c.finish call (.ofResult result)

/-- Closes both pools. -/
def close (c : Client) : Client :=
  { c with blockingPool := c.blockingPool.close, asyncPool := c.asyncPool.close }

end Client

end DocStore
