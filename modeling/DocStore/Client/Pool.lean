import DocStore.Transport.Basic

/-!
# Pools of connections

A pool has a number of slots. Taking a slot brings an idle connection with it, if there is one;
otherwise a new connection is opened. A connection in use is held by a guard, which knows whether
a call on it was given up; such a connection is reset before it is used again.
-/

namespace DocStore

/-- How connections are opened, reset and looked after; `σ` is the state of what they lead to. -/
structure Connector (κ σ : Type) where
  connect : σ → TransportResult κ × σ
  reset : κ → σ → κ × σ
  isHealthy : κ → σ → Bool

/-- A connection in use. -/
structure Guard (κ : Type) where
  connection : κ
  /-- Whether a call is pending or was given up. -/
  dirty : Bool := false

namespace Guard

variable {κ σ α : Type}

/-- The guard while a call is pending. -/
def begin (g : Guard κ) : Guard κ := { g with dirty := true }

/-- The guard after a call has ended. -/
def finish (g : Guard κ) (connection : κ) (result : TransportResult α) : Guard κ :=
  { g with connection, dirty := result.isTimeout }

/-- Makes a call on the connection. -/
def call (g : Guard κ) (f : κ → σ → TransportResult α × κ × σ) (s : σ) :
    TransportResult α × Guard κ × σ :=
  let pending := g.begin
  let (result, connection, s) := f pending.connection s
  (result, pending.finish connection result, s)

end Guard

/-- A pool of connections. -/
structure Pool (κ : Type) where
  /-- The number of slots. -/
  maxSize : Nat
  /-- How long a caller waits for a slot, in milliseconds. -/
  acquireTimeoutMs : Nat
  /-- The connections that are not in use, the one returned last first. -/
  idle : List κ := []
  /-- The number of slots taken. -/
  inUse : Nat := 0
  closed : Bool := false
  /-- How many connections were opened. -/
  created : Nat := 0
  /-- How many times a connection was handed out. -/
  acquired : Nat := 0
  /-- How many times a connection was reset. -/
  resets : Nat := 0

namespace Pool

variable {κ σ : Type}

/-- The failure of a call to a closed pool. -/
def closedError : TransportError := .unreachable "pool is closed"

/-- Whether a slot is free. -/
def hasSlot (p : Pool κ) : Bool := decide (p.inUse < p.maxSize)

/-- Takes a slot and, if there is one, the idle connection that was returned last. -/
def takeSlot (p : Pool κ) : TransportResult (Option κ) × Pool κ :=
  if p.closed then (.error closedError, p)
  else if p.hasSlot then (.ok p.idle.head?, { p with inUse := p.inUse + 1, idle := p.idle.tail })
  else (.error .poolExhausted, p)

/-- Gives a slot back. -/
def giveSlot (p : Pool κ) : Pool κ := { p with inUse := p.inUse - 1 }

/-- Hands out a connection: an idle one, or a new one. -/
def acquire (connector : Connector κ σ) (p : Pool κ) (s : σ) :
    TransportResult (Guard κ) × Pool κ × σ :=
  match p.takeSlot with
  | (.error e, p) => (.error e, p, s)
  | (.ok (some connection), p) => (.ok { connection }, { p with acquired := p.acquired + 1 }, s)
  | (.ok none, p) =>
    match connector.connect s with
    | (.error e, s) => (.error e, p.giveSlot, s)
    | (.ok connection, s) =>
      (.ok { connection }, { p with created := p.created + 1, acquired := p.acquired + 1 }, s)

/-- Resets the connection of a guard whose call was given up. -/
def clean (connector : Connector κ σ) (p : Pool κ) (g : Guard κ) (s : σ) : κ × Pool κ × σ :=
  if g.dirty then
    let (connection, s) := connector.reset g.connection s
    (connection, { p with resets := p.resets + 1 }, s)
  else (g.connection, p, s)

/-- Takes a connection back. It becomes idle if it is healthy and the pool is open; otherwise it
is dropped. -/
def release (connector : Connector κ σ) (p : Pool κ) (g : Guard κ) (s : σ) : Pool κ × σ :=
  let (connection, p, s) := p.clean connector g s
  let p := p.giveSlot
  if connector.isHealthy connection s && !p.closed then
    ({ p with idle := connection :: p.idle }, s)
  else (p, s)

/-- Hands out no more connections and drops the idle ones. -/
def close (p : Pool κ) : Pool κ := { p with closed := true, idle := [] }

end Pool

end DocStore
