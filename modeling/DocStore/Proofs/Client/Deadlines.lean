import DocStore.Proofs.Client.Mirror
import DocStore.Proofs.Client.PoolTraffic

/-!
# Deadlines in both modes

On a clock that moves only while a call waits, what a caller sees is decided by two numbers: the
limit, and the time that the call takes (`Client.effort`). A suspended caller is too late when the
limit is less than that time, and one that blocks also when they are equal
(`Client.run_by_limit`). So the two modes leave the same collections, and have the same response but
where the limit is up just as the call ends (`Client.run_agree_iff`).
-/

namespace DocStore

/-- Whether a limit is overrun by a call that takes some time. A caller that blocks looks at the
clock in the end, a suspended one is woken by the call first. -/
def Mode.overruns (mode : Mode) (limit work : Nat) : Bool :=
  match mode with
  | .sync => decide (limit ≤ work)
  | .async => decide (limit < work)

namespace Store

variable {s t : Store}

/-- What comes of a command for a caller who has all the time. -/
def reach (s : Store) (command : Command) : TransportResult Reply × Store :=
  if s.unreachable then (.error unreachableError, s) else s.execute command

/-- How long a call is on its way. -/
def travel (s : Store) : Nat := if s.unreachable then 0 else s.latency.getD 0

theorem timeless_reach (command : Command) : Timeless fun s => s.reach command := by
  intro s clock blocking async
  have same : (s.under clock blocking async).unreachable = s.unreachable := rfl
  unfold reach
  dsimp only
  rw [same]
  split
  · rfl
  · exact timeless_execute command s clock blocking async

theorem Alike.travel (h : s.Alike t) : t.travel = s.travel := by
  obtain ⟨_, _, _, rfl⟩ := h
  rfl

theorem Alike.collections (h : s.Alike t) : t.collections = s.collections := by
  obtain ⟨_, _, _, rfl⟩ := h
  rfl

/-- A clock that moves only while somebody waits. -/
def Steady (s : Store) : Prop := s.clock.drifts = []

theorem readClock_of_steady (steady : s.Steady) : s.readClock = (s.clock.now, s) := by
  unfold readClock Clock.read
  rw [steady]

theorem collections_killCursors (cursors : List Nat) (s : Store) :
    (cursors.foldl killCursor s).collections = s.collections := by
  induction cursors generalizing s with
  | nil => rfl
  | cons cursor cursors ih => exact ih (s.killCursor cursor)

end Store

/-! ## Ends of calls -/

/-- A call with a limit has ended: after its work, with what came of it, or when the limit was up.
Only a suspended caller is sure to know by then that it was. -/
structure Ends (mode : Mode) (limit work : Nat) (s : Store)
    (outcome r : TransportResult Reply × Store) : Prop where
  clock : r.2.clock = s.clock.wait (min limit work)
  collections : r.2.collections = if limit < work then s.collections else outcome.2.collections
  overrun : limit < work → mode = .async → r.1.isTimeout = true
  result : work ≤ limit → r.1 = outcome.1

section

variable {mode : Mode} {limit work : Nat} {s t : Store} {outcome r : TransportResult Reply × Store}

theorem Ends.late (less : limit < work) (clock : r.2.clock = s.clock.wait limit)
    (collections : r.2.collections = s.collections)
    (known : mode = .async → r.1.isTimeout = true) : Ends mode limit work s outcome r where
  clock := by rw [Nat.min_eq_left (Nat.le_of_lt less), clock]
  collections := by rw [if_pos less, collections]
  overrun := fun _ => known
  result := fun within => absurd less (Nat.not_lt.2 within)

theorem Ends.within (within : work ≤ limit) (clock : r.2.clock = s.clock.wait work)
    (collections : r.2.collections = outcome.2.collections) (result : r.1 = outcome.1) :
    Ends mode limit work s outcome r where
  clock := by rw [Nat.min_eq_right within, clock]
  collections := by rw [if_neg (Nat.not_lt.2 within), collections]
  overrun := fun less => absurd less (Nat.not_lt.2 within)
  result := fun _ => result

/-- What happens to the store afterwards is of no account, if it keeps the clock and the
collections. -/
theorem Ends.followed (h : Ends mode limit work s outcome r) (clock : t.clock = r.2.clock)
    (collections : t.collections = r.2.collections) :
    Ends mode limit work s outcome (r.1, t) where
  clock := clock.trans h.clock
  collections := collections.trans h.collections
  overrun := h.overrun
  result := h.result

theorem ends_awaitSlot (steady : s.Steady) (timeoutMs : Nat) :
    Ends mode limit timeoutMs s (.error .poolExhausted, s)
      (.error ((Patience.of mode s.clock.now (some limit)).awaitSlot timeoutMs s).1,
        ((Patience.of mode s.clock.now (some limit)).awaitSlot timeoutMs s).2) := by
  by_cases less : limit < timeoutMs
  · cases mode with
    | sync =>
      have pause : min (s.clock.now + timeoutMs) (s.clock.now + limit) - s.clock.now = limit := by
        omega
      simp only [Patience.of, Patience.awaitSlot, Option.map_some, Store.readClock_of_steady steady,
        pause]
      exact .late less rfl rfl nofun
    | async =>
      simp only [Patience.of, Patience.awaitSlot, if_pos less]
      exact .late less rfl rfl fun _ => rfl
  · have within := Nat.not_lt.1 less
    cases mode with
    | sync =>
      have pause : min (s.clock.now + timeoutMs) (s.clock.now + limit) - s.clock.now =
          timeoutMs := by
        omega
      simp only [Patience.of, Patience.awaitSlot, Option.map_some, Store.readClock_of_steady steady,
        pause]
      exact .within within rfl rfl rfl
    | async =>
      simp only [Patience.of, Patience.awaitSlot, if_neg less]
      exact .within within rfl rfl rfl

/-- A store waits for its latency, but not beyond the limit of its caller. -/
theorem delay_of_reachable (steady : s.Steady) (reachable : s.unreachable = false) :
    s.delay (.of mode s.clock.now (some limit)) =
      (if limit < s.travel then .error (.timeout limit) else .ok (),
        s.wait (min limit s.travel)) := by
  have travel : s.travel = s.latency.getD 0 := by simp [Store.travel, reachable]
  unfold Store.delay
  rw [if_neg (by simp [reachable]), travel]
  cases s.latency with
  | none => simp [Store.wait, Clock.wait]
  | some ms =>
    by_cases less : limit < ms
    · cases mode with
      | sync =>
        simp [Patience.of, Store.readClock_of_steady steady, less, Nat.min_eq_left (Nat.le_of_lt less)]
      | async => simp [Patience.of, less, Nat.min_eq_left (Nat.le_of_lt less)]
    · cases mode with
      | sync =>
        simp [Patience.of, Store.readClock_of_steady steady, less, Nat.min_eq_right (Nat.not_lt.1 less)]
      | async => simp [Patience.of, less, Nat.min_eq_right (Nat.not_lt.1 less)]

/-- A command that is sent over a connection ends with what comes of it. -/
theorem ends_execute (steady : s.Steady) (mode : Mode) (limit : Nat) (k : Connection)
    (command : Command) :
    Ends mode limit s.travel s (s.reach command)
      ((k.execute (.of mode s.clock.now (some limit)) command s).1,
        (k.execute (.of mode s.clock.now (some limit)) command s).2.2) := by
  unfold Connection.execute
  cases reachable : s.unreachable with
  | true =>
    have refused : s.delay (.of mode s.clock.now (some limit)) =
        (.error Store.unreachableError, s) := if_pos reachable
    have outcome : s.reach command = (.error Store.unreachableError, s) := if_pos reachable
    have travel : s.travel = 0 := if_pos reachable
    rw [refused, outcome, travel]
    exact .within (Nat.zero_le _) rfl rfl rfl
  | false =>
    have outcome : s.reach command = s.execute command := if_neg (by simp [reachable])
    rw [delay_of_reachable steady reachable, outcome]
    by_cases less : limit < s.travel
    · rw [if_pos less, Nat.min_eq_left (Nat.le_of_lt less)]
      exact .late less rfl rfl fun _ => rfl
    · have within := Nat.not_lt.1 less
      -- The command does not see that time has passed.
      have executed := Store.timeless_execute command s (s.clock.wait s.travel)
        s.blockingConnections s.asyncConnections
      change (s.wait s.travel).execute command = _ at executed
      rw [if_neg less, Nat.min_eq_right within]
      dsimp only
      rw [executed]
      exact .within within rfl rfl rfl

/-- A call ends in the same way on a store that differs in the numbers of its connections. -/
theorem Ends.of_alike {command : Command} (alike : s.Alike t) (same : t.clock = s.clock)
    (h : Ends mode limit t.travel t (t.reach command) r) :
    Ends mode limit s.travel s (s.reach command) r := by
  obtain ⟨result, later⟩ := (Store.timeless_reach command).alike alike
  have travel := alike.travel
  constructor
  · rw [h.clock, travel, same]
  · rw [h.collections, travel, alike.collections, later.collections]
  · exact travel ▸ h.overrun
  · intro within
    exact (h.result (travel ▸ within)).trans result.symm

/-- The end of a call as its caller sees it: it timed out if the limit was overrun, or if that is
what came of it. -/
theorem Ends.settle (h : Ends mode limit work s outcome r) (steady : s.Steady) :
    (Patience.of mode s.clock.now (some limit)).settle (some limit) r.1 r.2 =
      (if mode.overruns limit work || outcome.1.isTimeout then .error (.timeout limit)
        else outcome.1, r.2) := by
  have steady' : r.2.Steady := by
    rw [Store.Steady, h.clock]
    exact steady
  have now : r.2.clock.now = s.clock.now + min limit work := by
    rw [h.clock]
    rfl
  unfold Patience.settle
  dsimp only
  by_cases less : limit < work
  · cases mode with
    | sync =>
      have passed : s.clock.now + limit ≤ r.2.clock.now := by omega
      have overrun : limit ≤ work := Nat.le_of_lt less
      simp [Patience.of, Patience.isLate, Store.readClock_of_steady steady', Mode.overruns, passed,
        overrun]
    | async => simp [h.overrun less rfl, Mode.overruns, less]
  · have within := Nat.not_lt.1 less
    rw [h.result within]
    cases timedOut : outcome.1.isTimeout with
    | true => simp
    | false =>
      -- What came of the call is there in time. A caller that blocks drops it all the same if the
      -- limit is up by now.
      cases mode with
      | sync =>
        have passed : s.clock.now + limit ≤ r.2.clock.now ↔ limit ≤ work := by omega
        simp [Patience.of, Patience.isLate, Store.readClock_of_steady steady', Mode.overruns, passed]
      | async => simp [Patience.of, Patience.isLate, Mode.overruns, less]

end

/-! ## Calls -/

namespace Client

/-- What comes of a command in a mode for a caller who has all the time. -/
def outcome (c : Client) (mode : Mode) (command : Command) : TransportResult Reply × Store :=
  if (c.pool mode).closed then (.error Pool.closedError, c.store)
  else if (c.pool mode).hasSlot then c.store.reach command
  else (.error .poolExhausted, c.store)

/-- How long a call of a mode takes a caller who has all the time: the latency of the store, or the
wait for a slot that does not become free. -/
def effort (c : Client) (mode : Mode) : Nat :=
  if (c.pool mode).closed then 0
  else if (c.pool mode).hasSlot then c.store.travel
  else (c.pool mode).acquireTimeoutMs

variable {c : Client} {mode : Mode} {limit : Nat} {command : Command}

/-- Taking a connection back keeps the clock and the collections. -/
theorem store_release (c : Client) (mode : Mode) (g : Guard Connection) :
    (c.release mode g).store.clock = c.store.clock ∧
      (c.release mode g).store.collections = c.store.collections := by
  rcases Pool.state_release (connector mode) (c.pool mode) g c.store with same | reset
  · rw [release_store, same]
    exact ⟨rfl, rfl⟩
  · rw [release_store, reset]
    exact ⟨(Connection.timeless_reset g.connection).clock c.store,
      Store.collections_killCursors _ _⟩

/-- A command that is sent through a guard ends with what comes of it. -/
theorem ends_sendThrough (steady : c.store.Steady) (g : Guard Connection) :
    Ends mode limit c.store.travel c.store (c.store.reach command)
      ((sendThrough ⟨mode, command, some limit, c.store.clock.now⟩ g c).1,
        (sendThrough ⟨mode, command, some limit, c.store.clock.now⟩ g c).2.store) := by
  have executed := ends_execute steady mode limit g.begin.connection command
  unfold sendThrough
  rw [Call.patience_mk]
  obtain ⟨clock, collections⟩ := store_release (onStore (fun s => regroup (g.call
    (fun k s => k.execute (.of mode c.store.clock.now (some limit)) command s) s)) c).2 mode
    (onStore (fun s => regroup (g.call
      (fun k s => k.execute (.of mode c.store.clock.now (some limit)) command s) s)) c).1.2
  exact executed.followed clock collections

/-- A caller who has a slot gets a connection to the store as it is, or finds it unreachable. -/
theorem acquire_of_free (call : Call) (opened : (c.pool call.mode).closed = false)
    (free : (c.pool call.mode).hasSlot = true) :
    (∃ c', c.acquire call = (.error Store.unreachableError, c') ∧ c'.store = c.store ∧
        c.store.unreachable = true) ∨
      ∃ g c', c.acquire call = (.ok g, c') ∧ c.store.Alike c'.store ∧
        c'.store.clock = c.store.clock := by
  have slot : ¬ (!(c.pool call.mode).closed && !(c.pool call.mode).hasSlot) = true := by simp [free]
  have below : (c.pool call.mode).inUse < (c.pool call.mode).maxSize := by
    simpa [Pool.hasSlot] using free
  unfold acquire
  dsimp only
  rw [if_neg slot]
  have ways := Pool.acquires (connector call.mode) (c.pool call.mode) c.store
  generalize (c.pool call.mode).acquire (connector call.mode) c.store = acquired at ways ⊢
  cases ways with
  | closed shut => simp [opened] at shut
  | exhausted _ full => omega
  | unconnected _ _ failed =>
    change c.store.connect call.mode = _ at failed
    unfold Store.connect at failed
    split at failed
    · rename_i unreachable
      cases failed
      exact .inl ⟨_, rfl, store_withPool .., unreachable⟩
    · split at failed <;> cases failed
  | reused _ _ _ =>
    refine .inr ⟨_, _, rfl, ?_⟩
    rw [store_withPool]
    exact ⟨.refl _, rfl⟩
  | @connected _ t _ _ _ done =>
    have made : (c.store.connect call.mode).2 = t := congrArg Prod.snd done
    refine .inr ⟨_, _, rfl, ?_⟩
    rw [store_withPool, ← made]
    refine ⟨c.store.alike_connect call.mode, ?_⟩
    unfold Store.connect
    split
    · rfl
    · cases call.mode <;> rfl

/-- **A command that is sent ends with what comes of it.** -/
theorem ends_send (steady : c.store.Steady) (mode : Mode) (limit : Nat) (command : Command) :
    Ends mode limit (c.effort mode) c.store (c.outcome mode command)
      ((c.send ⟨mode, command, some limit, c.store.clock.now⟩).1,
        (c.send ⟨mode, command, some limit, c.store.clock.now⟩).2.store) := by
  rw [send_eq]
  cases shut : (c.pool mode).closed with
  | true =>
    have outcome : c.outcome mode command = (.error Pool.closedError, c.store) := if_pos shut
    have effort : c.effort mode = 0 := if_pos shut
    have acquired : c.acquire ⟨mode, command, some limit, c.store.clock.now⟩ =
        (.error Pool.closedError, c.withPool mode (c.pool mode) c.store) := by
      simp [acquire, Pool.acquire, Pool.takeSlot, shut]
    rw [outcome, effort, acquired]
    simp only [sent, store_withPool]
    exact .within (Nat.zero_le _) rfl rfl rfl
  | false =>
    cases free : (c.pool mode).hasSlot with
    | false =>
      have outcome : c.outcome mode command = (.error .poolExhausted, c.store) := by
        simp [outcome, shut, free]
      have effort : c.effort mode = (c.pool mode).acquireTimeoutMs := by simp [effort, shut, free]
      rw [outcome, effort]
      simp only [acquire, shut, free, Call.patience_mk]
      exact ends_awaitSlot steady _
    | true =>
      have outcome : c.outcome mode command = c.store.reach command := by
        simp [outcome, shut, free]
      have effort : c.effort mode = c.store.travel := by simp [effort, shut, free]
      rw [outcome, effort]
      rcases acquire_of_free ⟨mode, command, some limit, c.store.clock.now⟩ shut free with
        ⟨c', acquired, same, unreachable⟩ | ⟨g, c', acquired, alike, same⟩
      · have refused : c.store.reach command = (.error Store.unreachableError, c.store) :=
          if_pos unreachable
        have travel : c.store.travel = 0 := if_pos unreachable
        rw [acquired, refused, travel]
        simp only [sent, same]
        exact .within (Nat.zero_le _) rfl rfl rfl
      · -- Connecting has changed the numbers of connections, which no command reads.
        have steady' : c'.store.Steady := by
          rw [Store.Steady, same]
          exact steady
        rw [acquired, ← same]
        exact .of_alike alike same (ends_sendThrough steady' g)

/-- **What a caller with a limit sees of a command**: what comes of it, unless its mode overruns the
limit. The store is left as it was if the call takes longer than the limit, and not otherwise. -/
theorem run_by_limit (steady : c.store.Steady) (mode : Mode) (command : Command) (limit : Nat) :
    (c.run mode command (some limit)).1 =
        .ofResult (if mode.overruns limit (c.effort mode) || (c.outcome mode command).1.isTimeout
          then .error (.timeout limit) else (c.outcome mode command).1) ∧
      (c.run mode command (some limit)).2.store.collections =
        if limit < c.effort mode then c.store.collections
        else (c.outcome mode command).2.collections := by
  have ends : Ends mode limit (c.effort mode) c.store (c.outcome mode command)
      (((c.record (.started mode command)).send ⟨mode, command, some limit, c.store.clock.now⟩).1,
        ((c.record (.started mode command)).send
          ⟨mode, command, some limit, c.store.clock.now⟩).2.store) := by
    -- The record of the start is in neither the store nor a pool.
    have sent := ends_send (c := c.record (.started mode command)) steady mode limit command
    cases mode <;> exact sent
  have settled := ends.settle steady
  rw [run_eq]
  unfold carryOut begin settle
  rw [Store.readClock_of_steady steady]
  dsimp only
  rw [Call.patience_mk, settled]
  exact ⟨rfl, ends.collections⟩

/-- Callers of both modes find the same: both pools are closed or neither, and both have a slot or
neither, for which the callers wait as long. -/
structure Level (c : Client) : Prop where
  closed : c.blockingPool.closed = c.asyncPool.closed
  hasSlot : c.blockingPool.hasSlot = c.asyncPool.hasSlot
  acquireTimeoutMs : c.blockingPool.acquireTimeoutMs = c.asyncPool.acquireTimeoutMs

theorem Level.outcome (h : c.Level) (command : Command) :
    c.outcome .async command = c.outcome .sync command := by
  unfold Client.outcome pool
  rw [h.closed, h.hasSlot]

theorem Level.effort (h : c.Level) : c.effort .async = c.effort .sync := by
  unfold Client.effort pool
  rw [h.closed, h.hasSlot, h.acquireTimeoutMs]

end Client

namespace Response

theorem error_ofReply (reply : Reply) : (ofReply reply).error = none := by
  cases reply with
  | document doc => cases doc <;> rfl
  | _ => rfl

/-- A response reports a timeout if that is what came of the call. -/
theorem error_ofResult (result : TransportResult Reply) :
    (ofResult result).error = some .timeout ↔ result.isTimeout = true := by
  cases result with
  | ok reply => simp [ofResult, error_ofReply, TransportResult.isTimeout]
  | error e =>
    cases e <;> simp [ofResult, failure, TransportError.toError, Error.kind,
      TransportResult.isTimeout, TransportError.isTimeout]

end Response

namespace Client

variable {c : Client}

/-- **Both modes treat a command with a limit alike**, but where the limit is up just as the command
ends: then a caller that blocks is told of a timeout, and a suspended one of what came of the command.
The collections are left the same even then. -/
theorem run_agree_iff (steady : c.store.Steady) (level : c.Level) (command : Command)
    (limit : Nat) :
    let blocking := c.run .sync command (some limit)
    let suspended := c.run .async command (some limit)
    let agreed := limit ≠ c.effort .sync ∨ (c.outcome .sync command).1.isTimeout = true
    (blocking.1 = suspended.1 ↔ agreed) ∧
      ((blocking.1.error = some .timeout ↔ suspended.1.error = some .timeout) ↔ agreed) ∧
      blocking.2.store.collections = suspended.2.store.collections := by
  intro blocking suspended agreed
  obtain ⟨said, left⟩ := run_by_limit steady .sync command limit
  obtain ⟨said', left'⟩ := run_by_limit steady .async command limit
  rw [level.outcome, level.effort] at said' left'
  have same (h : agreed) : blocking.1 = suspended.1 := by
    refine said.trans (.trans (congrArg Response.ofResult ?_) said'.symm)
    rcases h with different | timedOut
    · have overruns : Mode.overruns .sync limit (c.effort .sync) =
          Mode.overruns .async limit (c.effort .sync) := by
        simp only [Mode.overruns, decide_eq_decide]
        omega
      rw [overruns]
    · simp [timedOut]
  have apart (h : ¬ agreed) :
      blocking.1.error = some .timeout ∧ suspended.1.error ≠ some .timeout := by
    obtain ⟨just, inTime⟩ := not_or.1 h
    have just : limit = c.effort .sync := not_not.1 just
    have inTime : (c.outcome .sync command).1.isTimeout = false := Bool.eq_false_iff.2 inTime
    constructor
    · rw [said, Response.error_ofResult]
      simp [Mode.overruns, just, TransportResult.isTimeout, TransportError.isTimeout]
    · rw [said', Ne, Response.error_ofResult]
      simp [Mode.overruns, just, inTime]
  refine ⟨⟨fun equal => ?_, same⟩, ⟨fun equal => ?_, fun h => by rw [same h]⟩,
    left.trans left'.symm⟩
  · by_contra h
    obtain ⟨timedOut, inTime⟩ := apart h
    exact inTime (equal ▸ timedOut)
  · by_contra h
    obtain ⟨timedOut, inTime⟩ := apart h
    exact inTime (equal.1 timedOut)

/-- A latency that leaves the caller one millisecond. -/
theorem run_agree_within :
    let c : Client := { config := {}, registry := {}, store := { latency := some 4 },
                        blockingPool := { maxSize := 1, acquireTimeoutMs := 0 },
                        asyncPool := { maxSize := 1, acquireTimeoutMs := 0 } }
    (c.run .sync (.count "c" (.obj [])) (some 5)).1 =
      (c.run .async (.count "c" (.obj [])) (some 5)).1 := by
  intro c
  have agree := run_agree_iff (c := c) rfl ⟨rfl, rfl, rfl⟩ (.count "c" (.obj [])) 5
  exact agree.1.2 (.inl (by decide))

/-- The modes differ where the limit is up at once: a document is counted, and only a suspended
caller is told. -/
theorem run_disagree_at_once :
    let c : Client := { config := {}, registry := {},
                        store := { collections := [("c", [.obj [("_id", .int 1)]])] },
                        blockingPool := { maxSize := 1, acquireTimeoutMs := 0 },
                        asyncPool := { maxSize := 1, acquireTimeoutMs := 0 } }
    c.store.Steady ∧ c.Level ∧
      (c.run .async (.count "c" (.obj [])) (some 0)).1 = .ok .empty 1 "Counted 1 document" ∧
      (c.run .sync (.count "c" (.obj [])) (some 0)).1 = .failure (.timeout 0) 0 := by
  exact ⟨rfl, ⟨rfl, rfl, rfl⟩, rfl, rfl⟩

end Client

end DocStore
