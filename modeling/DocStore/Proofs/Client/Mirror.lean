import DocStore.Client.Cursor
import DocStore.Proofs.Client.Lockstep

/-!
# Clients that mirror each other

Two clients mirror each other if what one has done in a mode the other has done in the other mode:
the pools are exchanged, the records carry the other mode, and the stores are alike. Calls of
clients that mirror each other, made in opposite modes, have the same responses, and leave clients
that mirror each other, as long as no deadline passes.
-/

namespace DocStore

theorem Mode.swap_injective : Function.Injective Mode.swap :=
  Function.LeftInverse.injective Mode.swap_swap

/-- The same record of a call in the other mode. -/
def CallRecord.swap : CallRecord → CallRecord
  | .started mode command => .started mode.swap command
  | .ended mode command response => .ended mode.swap command response

/-- The same cursor in the other mode. -/
def Cursor.swap (cur : Cursor) : Cursor := { cur with mode := cur.mode.swap }

open Paired (now Alike)

/-! ## Pools -/

namespace Connection

theorem killCursors_under (cursors : List Nat) (s : Store) (clock : Clock) (blocking async : Nat) :
    cursors.foldl Store.killCursor (s.under clock blocking async) =
      (cursors.foldl Store.killCursor s).under clock blocking async := by
  induction cursors generalizing s with
  | nil => rfl
  | cons cursor rest ih => exact ih (s.killCursor cursor)

/-- A reset closes cursors, whatever the clock shows. -/
theorem timeless_reset (k : Connection) : Store.Timeless fun s => k.reset s := by
  intro s clock blocking async
  unfold reset
  dsimp only
  rw [killCursors_under]
  rfl

end Connection

namespace Guard

theorem timeless_kill (g : Guard Connection) (cursor : Nat) :
    Store.Timeless fun s => g.kill cursor s := by
  intro s clock blocking async
  dsimp only [kill]
  split <;> rfl

/-- A call through a guard is in lockstep if it is so on every connection. -/
theorem call_lockstep {α : Type} {limit : Option Nat} (g : Guard Connection)
    {f : Mode → Nat → Connection → Store → TransportResult α × Connection × Store}
    (h : ∀ k, Lockstep limit Eq fun mode started s => regroup (f mode started k s)) :
    Lockstep limit Eq fun mode started s => regroup (g.call (f mode started) s) :=
  (h g.begin.connection).bind (G := fun r _ _ s => ((r.1, g.begin.finish r.2 r.1), s))
    fun _ => .const _

end Guard

namespace Pool

variable {limit : Option Nat}

/-- Connections of the two modes are counted apart, and opened alike. -/
theorem connect_lockstep :
    Lockstep limit Eq fun mode _ (s : Store) => (Client.connector mode).connect s := by
  constructor
  · intro mode _ s
    show s.clock.now ≤ (s.connect mode).2.clock.now
    unfold Store.connect
    split
    · exact Nat.le_refl _
    · cases mode <;> exact Nat.le_refl _
  · rintro mode _ _ c _ ⟨clock, blocking, async, rfl⟩ _ _ _ _
    show (c.connect mode).1 = ((c.under clock blocking async).connect mode.swap).1 ∧
      (c.connect mode).2.Alike ((c.under clock blocking async).connect mode.swap).2
    have reach : (c.under clock blocking async).unreachable = c.unreachable := rfl
    unfold Store.connect
    rw [reach]
    by_cases h : c.unreachable
    · rw [if_pos h, if_pos h]
      exact ⟨rfl, clock, blocking, async, rfl⟩
    · rw [if_neg h, if_neg h]
      cases mode with
      | sync => exact ⟨rfl, clock, blocking, async + 1, rfl⟩
      | async => exact ⟨rfl, clock, blocking + 1, async, rfl⟩

/-- What a pool hands out when a connection was to be opened. -/
def opened (p : Pool Connection) : TransportResult Connection →
    TransportResult (Guard Connection) × Pool Connection
  | .error e => (.error e, p.giveSlot)
  | .ok connection => (.ok { connection },
      { p with created := p.created + 1, acquired := p.acquired + 1 })

/-- Only a pool without an idle connection connects. -/
theorem acquire_eq (connector : Connector Connection Store) (p : Pool Connection) (s : Store) :
    regroup (p.acquire connector s) = match p.takeSlot with
      | (.error e, p) => ((.error e, p), s)
      | (.ok (some connection), p) =>
        ((.ok { connection }, { p with acquired := p.acquired + 1 }), s)
      | (.ok none, p) => (opened p (connector.connect s).1, (connector.connect s).2) := by
  unfold acquire
  obtain ⟨e | ⟨_ | connection⟩, p⟩ := p.takeSlot
  · rfl
  · dsimp only
    obtain ⟨_ | _, _⟩ := connector.connect s <;> rfl
  · rfl

theorem acquire_lockstep (p : Pool Connection) :
    Lockstep limit Eq fun mode _ (s : Store) => regroup (p.acquire (Client.connector mode) s) := by
  simp only [acquire_eq]
  obtain ⟨e | ⟨_ | connection⟩, p⟩ := p.takeSlot
  · dsimp only
    exact .const _
  · exact connect_lockstep.bind (G := fun r _ _ s => (opened p r, s)) fun _ => .const _
  · dsimp only
    exact .const _

/-- The connection of a call that was given up is reset in both modes. -/
theorem clean_lockstep (p : Pool Connection) (g : Guard Connection) :
    Lockstep limit Eq fun mode _ (s : Store) => regroup (p.clean (Client.connector mode) g s) := by
  unfold clean
  by_cases h : g.dirty
  · simp only [h, if_true]
    exact (Lockstep.of_timeless (Connection.timeless_reset g.connection)).bind
      (G := fun k _ _ s => ((k, { p with resets := p.resets + 1 }), s)) fun _ => .const _
  · simp only [h]
    exact .const (g.connection, p)

/-- The pool after a connection was given back. -/
def returned (p : Pool Connection) (k : Connection) (healthy : Bool) : Pool Connection :=
  if healthy && !p.giveSlot.closed then { p.giveSlot with idle := k :: p.giveSlot.idle }
  else p.giveSlot

theorem release_eq (connector : Connector Connection Store) (p : Pool Connection)
    (g : Guard Connection) (s : Store) :
    p.release connector g s =
      (returned (p.clean connector g s).2.1 (p.clean connector g s).1
        (connector.isHealthy (p.clean connector g s).1 (p.clean connector g s).2.2),
        (p.clean connector g s).2.2) := by
  unfold release returned
  obtain ⟨k, p, s⟩ := p.clean connector g s
  dsimp only
  by_cases h : connector.isHealthy k s && !p.giveSlot.closed
  · rw [if_pos h, if_pos h]
  · rw [if_neg h, if_neg h]

theorem release_lockstep (p : Pool Connection) (g : Guard Connection) :
    Lockstep limit Eq fun mode _ (s : Store) => p.release (Client.connector mode) g s := by
  simp only [release_eq]
  refine (clean_lockstep p g).bind (G := fun r mode _ s =>
    (returned r.2 r.1 ((Client.connector mode).isHealthy r.1 s), s)) fun r => ?_
  refine .read (r := fun mode (s : Store) => (Client.connector mode).isHealthy r.1 s)
    (G := fun healthy _ _ s => (returned r.2 r.1 healthy, s)) ?_ fun _ => .const _
  rintro _ c _ ⟨_, _, _, rfl⟩
  rfl

end Pool

/-! ## Clients -/

namespace Client

/-- What one client has done in a mode the other has done in the other mode. -/
structure Mirrors (c d : Client) : Prop where
  config : d.config = c.config
  registry : d.registry = c.registry
  store : c.store.Alike d.store
  pool : ∀ mode, d.pool mode.swap = c.pool mode
  records : d.records = c.records.map CallRecord.swap

instance : Paired Client := ⟨fun c => c.store.clock.now, Mirrors⟩

variable {α : Type} {limit : Option Nat} {c d : Client}

@[simp]
theorem config_withPool (c : Client) (mode : Mode) (p : Pool Connection) (s : Store) :
    (c.withPool mode p s).config = c.config := by
  cases mode <;> rfl

@[simp]
theorem registry_withPool (c : Client) (mode : Mode) (p : Pool Connection) (s : Store) :
    (c.withPool mode p s).registry = c.registry := by
  cases mode <;> rfl

@[simp]
theorem store_withPool (c : Client) (mode : Mode) (p : Pool Connection) (s : Store) :
    (c.withPool mode p s).store = s := by
  cases mode <;> rfl

@[simp]
theorem records_withPool (c : Client) (mode : Mode) (p : Pool Connection) (s : Store) :
    (c.withPool mode p s).records = c.records := by
  cases mode <;> rfl

theorem pool_withPool (c : Client) (mode other : Mode) (p : Pool Connection) (s : Store) :
    (c.withPool mode p s).pool other = if other = mode then p else c.pool other := by
  cases mode <;> cases other <;> rfl

/-- The store sees of a release what the pool of the mode does to it. -/
theorem release_store (c : Client) (mode : Mode) (g : Guard Connection) :
    (c.release mode g).store = ((c.pool mode).release (connector mode) g c.store).2 :=
  store_withPool ..

/-- Clients that mirror each other may move to stores that are alike. -/
theorem Mirrors.withStore (h : Mirrors c d) {s t : Store} (alike : s.Alike t) :
    Mirrors { c with store := s } { d with store := t } where
  config := h.config
  registry := h.registry
  store := alike
  pool := by
    intro mode
    have := h.pool mode
    cases mode <;> exact this
  records := h.records

/-- The pools of opposite modes change together. -/
theorem Mirrors.withPool (h : Mirrors c d) (mode : Mode) (p : Pool Connection) {s t : Store}
    (alike : s.Alike t) : Mirrors (c.withPool mode p s) (d.withPool mode.swap p t) where
  config := by
    rw [config_withPool, config_withPool]
    exact h.config
  registry := by
    rw [registry_withPool, registry_withPool]
    exact h.registry
  store := by
    rw [store_withPool, store_withPool]
    exact alike
  pool := by
    intro other
    rw [pool_withPool, pool_withPool, h.pool other]
    by_cases same : other = mode
    · rw [if_pos (congrArg Mode.swap same), if_pos same]
    · rw [if_neg fun e => same (Mode.swap_injective e), if_neg same]
  records := by
    rw [records_withPool, records_withPool]
    exact h.records

/-- Both records grow by the same call, each with its own mode. -/
theorem Mirrors.record (h : Mirrors c d) (r : CallRecord) :
    Mirrors (c.record r) (d.record r.swap) where
  config := h.config
  registry := h.registry
  store := h.store
  pool := by
    intro mode
    have := h.pool mode
    cases mode <;> exact this
  records := by
    show d.records ++ [r.swap] = (c.records ++ [r]).map CallRecord.swap
    rw [List.map_append, h.records]
    rfl

theorem Mirrors.close (h : Mirrors c d) : Mirrors c.close d.close where
  config := h.config
  registry := h.registry
  store := h.store
  pool := by
    intro mode
    have := congrArg Pool.close (h.pool mode)
    cases mode <;> exact this
  records := h.records

/-! ## Pieces on the client -/

/-- A piece on the store of a client. -/
def onStore (f : Store → α × Store) (c : Client) : α × Client :=
  ((f c.store).1, { c with store := (f c.store).2 })

/-- A piece on the store of a client that changes the pool of a mode. -/
def onPool (mode : Mode) (f : Store → (α × Pool Connection) × Store) (c : Client) : α × Client :=
  ((f c.store).1.1, c.withPool mode (f c.store).1.2 (f c.store).2)

theorem onStore_lockstep {F : Mode → Nat → Store → α × Store} (h : Lockstep limit Eq F) :
    Lockstep limit Eq fun mode started c => onStore (F mode started) c := by
  constructor
  · intro mode t c
    exact h.mono mode t c.store
  · intro mode t u c d mirrors ht hu aheadc aheadd
    obtain ⟨same, alike⟩ := h.alike mode t u c.store d.store mirrors.store ht hu aheadc aheadd
    exact ⟨same, mirrors.withStore alike⟩

/-- A piece on the store is in lockstep on the client with the pools exchanged. -/
theorem onPool_lockstep {F : Mode → Nat → Store → (α × Pool Connection) × Store}
    (h : Lockstep limit Eq F) :
    Lockstep limit Eq fun mode started c => onPool mode (F mode started) c := by
  have time (mode : Mode) (t : Nat) (c : Client) :
      now (onPool mode (F mode t) c).2 = now (F mode t c.store).2 :=
    congrArg (fun s => s.clock.now) (c.store_withPool mode _ _)
  constructor
  · intro mode t c
    rw [time]
    exact h.mono mode t c.store
  · intro mode t u c d mirrors ht hu aheadc aheadd
    unfold Ahead at aheadc aheadd
    rw [time] at aheadc aheadd
    obtain ⟨same, alike⟩ := h.alike mode t u c.store d.store mirrors.store ht hu aheadc aheadd
    unfold onPool
    rw [← same]
    exact ⟨rfl, mirrors.withPool mode _ alike⟩

section

variable (command : Command)

theorem acquire_lockstep :
    Lockstep limit Eq fun mode started c => acquire c ⟨mode, command, limit, started⟩ := by
  simp only [acquire, Call.patience_mk]
  refine .read (r := fun mode c => c.pool mode) (G := fun pool mode started c =>
    if !pool.closed && !pool.hasSlot then
      (.error (onStore ((Patience.of mode started limit).awaitSlot pool.acquireTimeoutMs) c).1,
        (onStore ((Patience.of mode started limit).awaitSlot pool.acquireTimeoutMs) c).2)
    else onPool mode (fun s => regroup (pool.acquire (connector mode) s)) c)
    (fun mode _ _ mirrors => mirrors.pool mode) fun pool => ?_
  by_cases h : !pool.closed && !pool.hasSlot
  · simp only [h, if_true]
    exact (onStore_lockstep (Patience.awaitSlot_lockstep _ limit)).bind
      (G := fun e _ _ c => (Except.error e, c)) fun _ => .const _
  · simp only [h]
    exact onPool_lockstep (Pool.acquire_lockstep pool)

theorem release_lockstep (g : Guard Connection) :
    Lockstep limit Eq fun mode _ c => ((), release c mode g) := by
  unfold release
  refine .read (r := fun mode c => c.pool mode) (G := fun pool mode _ c =>
    onPool mode (fun s => (((), (pool.release (connector mode) g s).1),
      (pool.release (connector mode) g s).2)) c)
    (fun mode _ _ mirrors => mirrors.pool mode) fun pool => ?_
  exact onPool_lockstep
    ((Pool.release_lockstep pool g).bind (G := fun p _ _ s => (((), p), s)) fun _ => .const _)

/-- A command is sent through a guard, which gives its connection back. -/
def sendThrough (call : Call) (g : Guard Connection) (c : Client) :
    TransportResult Reply × Client :=
  let r := onStore (fun s => regroup (g.call
    (fun k s => k.execute call.patience call.command s) s)) c
  (r.1.1, release r.2 call.mode r.1.2)

theorem sendThrough_lockstep (g : Guard Connection) :
    Lockstep limit Eq fun mode started c =>
      sendThrough ⟨mode, command, limit, started⟩ g c := by
  simp only [sendThrough, Call.patience_mk]
  have call := onStore_lockstep (g.call_lockstep fun k => k.execute_lockstep command limit)
  refine call.bind (G := fun r mode _ c => (r.1, release c mode r.2)) fun r => ?_
  exact (release_lockstep r.2).bind (G := fun _ _ _ c => (r.1, c)) fun _ => .const _

/-- A command is sent once it is known whether there is a connection. -/
def sent (call : Call) (r : TransportResult (Guard Connection)) (c : Client) :
    TransportResult Reply × Client :=
  match r with
  | .error e => (.error e, c)
  | .ok g => sendThrough call g c

theorem sent_lockstep (r : TransportResult (Guard Connection)) :
    Lockstep limit Eq fun mode started c => sent ⟨mode, command, limit, started⟩ r c := by
  cases r with
  | error e => exact .const _
  | ok g => exact sendThrough_lockstep command g

/-- To send a command is to take a connection, to call through it, and to give it back. -/
theorem send_eq (c : Client) (call : Call) :
    send c call = sent call (acquire c call).1 (acquire c call).2 := by
  unfold send sent
  obtain ⟨_ | _, _⟩ := acquire c call
  · rfl
  · rfl

/-- A command is sent with the same result in both modes. -/
theorem send_lockstep :
    Lockstep limit Eq fun mode started c => send c ⟨mode, command, limit, started⟩ := by
  simp only [send_eq]
  exact (acquire_lockstep command).bind
    (G := fun r mode started c => sent ⟨mode, command, limit, started⟩ r c)
    fun r => sent_lockstep command r

/-- As long as the deadline is ahead, the end of a call leaves its result alone. -/
theorem settle_lockstep (result : TransportResult α) :
    Lockstep limit Eq fun mode started c => settle c ⟨mode, command, limit, started⟩ result := by
  simp only [settle, Call.patience_mk]
  exact onStore_lockstep (Patience.settle_lockstep result limit)

theorem finish_lockstep (response : Response) :
    Lockstep limit Eq fun mode started c =>
      finish c ⟨mode, command, limit, started⟩ response := by
  constructor
  · intro _ _ c
    exact Nat.le_refl (now c)
  · intro mode _ _ _ _ mirrors _ _ _ _
    exact ⟨rfl, mirrors.record (.ended mode command response)⟩

/-- A command from the moment when its call has begun. -/
def carryOut (command : Command) (limit : Option Nat) (mode : Mode) (started : Nat) (c : Client) :
    Response × Client :=
  let call : Call := ⟨mode, command, limit, started⟩
  let (result, c) := c.send call
  let (result, c) := c.settle call result
  c.finish call (.ofResult result)

/-- So a command has the same response in both modes from when it has begun. -/
theorem carryOut_lockstep : Lockstep limit Eq (carryOut command limit) :=
  (send_lockstep command).bind
    (G := fun result mode started c =>
      finish (settle c ⟨mode, command, limit, started⟩ result).2 ⟨mode, command, limit, started⟩
        (.ofResult (settle c ⟨mode, command, limit, started⟩ result).1))
    fun result => (settle_lockstep command result).bind
      (G := fun result mode started c =>
        finish c ⟨mode, command, limit, started⟩ (.ofResult result))
      fun _ => finish_lockstep command _

/-- The outcomes of opening a cursor in the two modes. -/
def SameCursor (r r' : Except Response Cursor) : Prop := r' = r.map Cursor.swap

theorem fail_lockstep (e : TransportError) :
    Lockstep limit SameCursor fun mode started c => fail c ⟨mode, command, limit, started⟩ e :=
  (settle_lockstep command (.error e : TransportResult Reply)).bind
    (G := fun result mode started c =>
      (Except.error (finish c ⟨mode, command, limit, started⟩ (.ofResult result)).1,
        (finish c ⟨mode, command, limit, started⟩ (.ofResult result)).2))
    fun result => (finish_lockstep command (.ofResult result)).bind
      (G := fun response _ _ c => (Except.error response, c))
      fun _ => .pure fun _ => rfl

/-- A cursor that is given up because it came late. -/
theorem giveUp_lockstep (g : Guard Connection) (cursor : Nat) (e : TransportError) :
    Lockstep limit SameCursor fun mode started c =>
      fail (release { c with store := (g.kill cursor c.store).2 } mode (g.kill cursor c.store).1)
        ⟨mode, command, limit, started⟩ e :=
  (onStore_lockstep (.of_timeless (g.timeless_kill cursor))).bind
    (G := fun g mode started c => fail (release c mode g) ⟨mode, command, limit, started⟩ e)
    fun g => (release_lockstep g).bind
      (G := fun _ mode started c => fail c ⟨mode, command, limit, started⟩ e)
      fun _ => fail_lockstep command e

/-- Ends a call that has a first batch, or came too late for it. -/
def deliver (call : Call) (g : Guard Connection) (result : TransportResult Batch) (c : Client) :
    Except Response Cursor × Client :=
  match result with
  | .error e =>
    let (response, c) := (c.release call.mode g).finish call (.ofResult (.error e))
    (.error response, c)
  | .ok batch =>
    let (_, c) := c.finish call (.documents batch.documents)
    (.ok { mode := call.mode, guard := g, id := batch.cursor, buffer := batch.documents,
           limit := call.limit }, c)

/-- A cursor is delivered with the mode of its call, and is otherwise the same. -/
theorem deliver_lockstep (g : Guard Connection) (result : TransportResult Batch) :
    Lockstep limit SameCursor fun mode started c =>
      deliver ⟨mode, command, limit, started⟩ g result c := by
  cases result with
  | error e =>
    exact (release_lockstep g).bind
      (G := fun _ mode started c => (Except.error (Response.ofResult (.error e)),
        (finish c ⟨mode, command, limit, started⟩ (.ofResult (.error e))).2))
      fun _ => (finish_lockstep command (.ofResult (.error e))).bind
        (G := fun response _ _ c => (Except.error response, c)) fun _ => .pure fun _ => rfl
  | ok batch =>
    exact (finish_lockstep command (.documents batch.documents)).bind
      (G := fun _ mode _ c => (Except.ok (Cursor.mk mode g batch.cursor batch.documents limit false),
        c)) fun _ => .pure fun _ => rfl

/-- Ends a call with a cursor, unless the time is over by now. -/
def handOverBy (call : Call) (g : Guard Connection) (batch : Batch) (late : Bool) (c : Client) :
    Except Response Cursor × Client :=
  if late then
    (release { c with store := (g.kill batch.cursor c.store).2 } call.mode
      (g.kill batch.cursor c.store).1).fail call (.timeout 0)
  else deliver call g (settle c call (.ok batch)).1 (settle c call (.ok batch)).2

/-- The first look at the clock decides whether the cursor is handed over. -/
theorem handOver_eq (c : Client) (call : Call) (g : Guard Connection) (batch : Batch) :
    c.handOver call g batch = handOverBy call g batch (onStore call.patience.isLate c).1
      (onStore call.patience.isLate c).2 := by
  unfold handOver handOverBy
  by_cases late : (call.patience.isLate c.store).1
  · exact (if_pos late).trans (if_pos late).symm
  · refine (if_neg late).trans (.trans ?_ (if_neg late).symm)
    unfold deliver
    rfl

/-- A late caller finds no cursor; a caller in time gets the first batch. -/
theorem handOver_lockstep (g : Guard Connection) (batch : Batch) :
    Lockstep limit SameCursor fun mode started c =>
      handOver c ⟨mode, command, limit, started⟩ g batch := by
  simp only [handOver_eq, Call.patience_mk]
  refine (onStore_lockstep (Patience.isLate_lockstep limit)).bind (G := fun late mode started c =>
    handOverBy ⟨mode, command, limit, started⟩ g batch late c) fun late => ?_
  cases late with
  | true => exact giveUp_lockstep command g batch.cursor (.timeout 0)
  | false =>
    exact (settle_lockstep command (.ok batch : TransportResult Batch)).bind
      (G := fun result mode started c => deliver ⟨mode, command, limit, started⟩ g result c)
      fun result => deliver_lockstep command g result

/-- What comes of the answer to a call that was to open a cursor. -/
def received (call : Call) (g : Guard Connection) (result : TransportResult Batch) (c : Client) :
    Except Response Cursor × Client :=
  match result with
  | .error e => (release c call.mode g).fail call e
  | .ok batch => c.handOver call g batch

theorem received_lockstep (g : Guard Connection) (result : TransportResult Batch) :
    Lockstep limit SameCursor fun mode started c =>
      received ⟨mode, command, limit, started⟩ g result c := by
  cases result with
  | error e =>
    exact (release_lockstep g).bind
      (G := fun _ mode started c => fail c ⟨mode, command, limit, started⟩ e)
      fun _ => fail_lockstep command e
  | ok batch => exact handOver_lockstep command g batch

/-- A cursor is opened through a guard. -/
def openThrough (call : Call) (g : Guard Connection) (size : Nat) (c : Client) :
    Except Response Cursor × Client :=
  let r := onStore (fun s => regroup (g.call
    (fun k s => k.openCursor call.patience call.command size s) s)) c
  received call r.1.2 r.1.1 r.2

theorem openThrough_lockstep (g : Guard Connection) (size : Nat) :
    Lockstep limit SameCursor fun mode started c =>
      openThrough ⟨mode, command, limit, started⟩ g size c := by
  simp only [openThrough, Call.patience_mk]
  have call := onStore_lockstep
    (g.call_lockstep fun k => k.openCursor_lockstep command size limit)
  exact call.bind (G := fun r mode started c =>
    received ⟨mode, command, limit, started⟩ r.2 r.1 c)
    fun r => received_lockstep command r.2 r.1

/-- A cursor is opened once it is known whether there is a connection. -/
def connected (call : Call) (r : TransportResult (Guard Connection)) (c : Client) :
    Except Response Cursor × Client :=
  match r with
  | .error e => c.fail call e
  | .ok g => openThrough call g c.config.batchSize c

theorem connected_lockstep (r : TransportResult (Guard Connection)) :
    Lockstep limit SameCursor fun mode started c =>
      connected ⟨mode, command, limit, started⟩ r c := by
  cases r with
  | error e => exact fail_lockstep command e
  | ok g =>
    exact .read (r := fun _ (c : Client) => c.config.batchSize) (G := fun size mode started c =>
      openThrough ⟨mode, command, limit, started⟩ g size c)
      (fun _ _ _ mirrors => congrArg Config.batchSize mirrors.config)
      fun size => openThrough_lockstep command g size

/-- The opening of a cursor from the moment when its call has begun. -/
def establish (command : Command) (limit : Option Nat) (mode : Mode) (started : Nat) (c : Client) :
    Except Response Cursor × Client :=
  let call : Call := ⟨mode, command, limit, started⟩
  connected call (acquire c call).1 (acquire c call).2

/-- So a cursor is opened with the same outcome in both modes. -/
theorem establish_lockstep : Lockstep limit SameCursor (establish command limit) :=
  (acquire_lockstep command).bind
    (G := fun r mode started c => connected ⟨mode, command, limit, started⟩ r c)
    fun r => connected_lockstep command r

end

/-! ## Calls -/

/-- Whether what took a client to another ended before its deadline, if it had one. -/
def inTime (c : Client) (limit : Option Nat) (after : Client) : Bool :=
  limit.all fun l => decide (after.store.clock.now < c.store.clock.read.1 + l)

/-- What ended in time had its deadline ahead of it to the end. -/
theorem ahead_of_inTime {after : Client} (h : c.inTime limit after) :
    Ahead c.store.readClock.1 limit after := by
  rintro l rfl
  exact of_decide_eq_true h

theorem Mirrors.readClock (h : Mirrors c d) :
    Mirrors { c with store := c.store.readClock.2 } { d with store := d.store.readClock.2 } :=
  h.withStore (c.store.alike_readClock.symm.trans (h.store.trans d.store.alike_readClock))

/-- Pieces that go in lockstep, from a reading of the clock on. -/
theorem Lockstep.begun {Same : α → α → Prop} {F : Mode → Nat → Client → α × Client}
    (h : Lockstep limit Same F) {c' d' : Client} (mirrors : Mirrors c' d') (mode : Mode)
    (hc : c'.store = c.store.readClock.2) (hd : d'.store = d.store.readClock.2)
    (inTime : c.inTime limit (F mode c.store.readClock.1 c').2)
    (inTime' : d.inTime limit (F mode.swap d.store.readClock.1 d').2) :
    Same (F mode c.store.readClock.1 c').1 (F mode.swap d.store.readClock.1 d').1 ∧
      Mirrors (F mode c.store.readClock.1 c').2 (F mode.swap d.store.readClock.1 d').2 := by
  have startc : c.store.readClock.1 = now c' := c.store.readClock_fst.trans (by rw [← hc]; rfl)
  have startd : d.store.readClock.1 = now d' := d.store.readClock_fst.trans (by rw [← hd]; rfl)
  exact h.alike mode _ _ c' d' mirrors (Nat.le_of_eq startc) (Nat.le_of_eq startd)
    (ahead_of_inTime inTime) (ahead_of_inTime inTime')

theorem run_eq (c : Client) (mode : Mode) (command : Command) (limit : Option Nat) :
    c.run mode command limit =
      carryOut command limit mode c.store.readClock.1 (c.begin mode command limit).2 := rfl

/-- A cursor is opened by a call that begins with a reading of the clock. -/
theorem openCursor_eq (c : Client) (mode : Mode) (command : Command) (limit : Option Nat) :
    c.openCursor mode command limit =
      establish command limit mode c.store.readClock.1 (c.begin mode command limit).2 := by
  unfold openCursor establish
  dsimp only [begin]
  obtain ⟨_ | g, c⟩ := acquire _ _
  · rfl
  · dsimp only [connected, openThrough, onStore, regroup]
    obtain ⟨_ | _, _, _⟩ := g.call _ _
    · rfl
    · rfl

/-- **Commands have the same responses in both modes, if no deadline passes.** -/
theorem run_mirrors (mirrors : Mirrors c d) (mode : Mode) (command : Command)
    (inTime : c.inTime limit (c.run mode command limit).2)
    (inTime' : d.inTime limit (d.run mode.swap command limit).2) :
    (c.run mode command limit).1 = (d.run mode.swap command limit).1 ∧
      Mirrors (c.run mode command limit).2 (d.run mode.swap command limit).2 := by
  simp only [run_eq] at inTime inTime' ⊢
  exact Lockstep.begun (carryOut_lockstep command)
    (mirrors.readClock.record (.started mode command)) mode rfl rfl inTime inTime'

/-- **Cursors are opened with the same outcome in both modes, if no deadline passes.** -/
theorem openCursor_mirrors (mirrors : Mirrors c d) (mode : Mode) (command : Command)
    (inTime : c.inTime limit (c.openCursor mode command limit).2)
    (inTime' : d.inTime limit (d.openCursor mode.swap command limit).2) :
    (d.openCursor mode.swap command limit).1 =
        (c.openCursor mode command limit).1.map Cursor.swap ∧
      Mirrors (c.openCursor mode command limit).2 (d.openCursor mode.swap command limit).2 := by
  simp only [openCursor_eq] at inTime inTime' ⊢
  exact Lockstep.begun (establish_lockstep command)
    (mirrors.readClock.record (.started mode command)) mode rfl rfl inTime inTime'

/-- What takes no time goes in lockstep at any time. -/
theorem Lockstep.anytime {F : Mode → Nat → Client → α × Client} (h : Lockstep none Eq F)
    (mirrors : Mirrors c d) (mode : Mode) :
    (F mode 0 c).1 = (F mode.swap 0 d).1 ∧ Mirrors (F mode 0 c).2 (F mode.swap 0 d).2 :=
  h.alike mode 0 0 c d mirrors (Nat.zero_le _) (Nat.zero_le _) (fun _ h => nomatch h)
    fun _ h => nomatch h

end Client

end DocStore
