import DocStore.Proofs.Client.Ownership
import DocStore.Proofs.Client.PoolTraffic
import DocStore.Proofs.Store.Network

/-!
# Cursors that are opened too late

A caller who opens a cursor and blocks looks at the clock twice once the first batch is there. At the
first look it closes a cursor that is late; at the second one it makes up the outcome of the call,
and closes nothing any more. So a call that fails leaves a cursor open exactly if its deadline
passes between the two looks (`Client.left_open_iff`). At any other moment the deadline may pass
without a trace.
-/

namespace DocStore

open Store (SameBut Opened)

namespace Store

/-- A store has become another one, and no cursor was opened. -/
def OpensNone (s t : Store) : Prop := ∀ id, s.cursors.get? id = none → t.cursors.get? id = none

/-- What is open on a store and was not open before. -/
def IsNew (s t : Store) (id : Nat) : Prop :=
  s.cursors.get? id = none ∧ (t.cursors.get? id).isSome

section

variable {s t u : Store} {id : Nat}

theorem OpensNone.trans (h : s.OpensNone t) (h' : t.OpensNone u) : s.OpensNone u :=
  fun id closed => h' id (h id closed)

theorem SameBut.opensNone (h : SameBut [] s t) : s.OpensNone t := by
  intro id closed
  rw [h.others id List.not_mem_nil]
  exact closed

theorem OpensNone.not_isNew (h : s.OpensNone t) (id : Nat) : ¬ s.IsNew t id := by
  rintro ⟨closed, opened⟩
  rw [h id closed] at opened
  cases opened

theorem isNew_congr (h : SameBut [] t u) : s.IsNew u id ↔ s.IsNew t id := by
  unfold IsNew
  rw [h.others id List.not_mem_nil]

theorem opensNone_reset (k : Connection) (s : Store) : s.OpensNone (k.reset s).2 := by
  intro id closed
  rw [k.get?_reset]
  split
  · rfl
  · exact closed

/-- What is new is the cursor that was opened, if it goes on after its first batch. -/
theorem Opened.isNew_iff (numbered : s.Numbered) (opened : Opened id s t) (other : Nat) :
    s.IsNew t other ↔ id = other ∧ other ≠ 0 := by
  constructor
  · rintro ⟨closed, present⟩
    by_cases this : other = s.nextCursor
    · subst this
      rcases opened.state with ⟨-, gone⟩ | ⟨same, -⟩
      · rw [gone] at present
        cases present
      · exact ⟨same, Nat.ne_of_gt numbered.positive⟩
    · rw [opened.table.others other fun mem => this (List.mem_singleton.1 mem), closed] at present
      cases present
  · rintro ⟨rfl, positive⟩
    rcases opened.state with ⟨last, -⟩ | ⟨rfl, present⟩
    · exact absurd last positive
    · exact ⟨numbered.next_closed, present⟩

end

end Store

/-! ## Closing -/

/-- A guard closes one cursor, and none under the number zero. -/
theorem Guard.get?_kill (g : Guard Connection) (id : Nat) (s : Store) (other : Nat) :
    (g.kill id s).2.cursors.get? other =
      if id = other ∧ other ≠ 0 then none else s.cursors.get? other := by
  unfold kill
  by_cases last : id = 0
  · have none : ¬ (id = other ∧ other ≠ 0) := by omega
    rw [if_pos (beq_iff_eq.2 last), if_neg none]
  · rw [if_neg (by simpa using last)]
    show (s.cursors.erase id).get? other = _
    by_cases this : id = other
    · subst this
      rw [if_pos ⟨rfl, last⟩]
      exact Dictionary.get?_erase_self ..
    · rw [if_neg fun mine => this mine.1]
      exact Dictionary.get?_erase_of_ne (Ne.symm this) s.cursors

/-- Who closes the cursor that was just opened has opened none. -/
theorem Store.Opened.opensNone_kill {s t : Store} {id : Nat} (numbered : s.Numbered)
    (opened : Opened id s t) (g : Guard Connection) : s.OpensNone (g.kill id t).2 := by
  intro other closed
  rw [g.get?_kill]
  split
  · rfl
  · rename_i kept
    by_contra present
    exact kept ((opened.isNew_iff numbered other).1 ⟨closed, Option.isSome_iff_ne_none.2 present⟩)

/-! ## Looks at the clock -/

namespace Patience

/-- The deadline of a caller passes between two looks at the clock. -/
def Slips (p : Patience) (s : Store) : Prop :=
  (p.isLate s).1 = false ∧ (p.isLate (p.isLate s).2).1 = true

/-- A caller who blocks reads the clock before the deadline, and then not before it any more. -/
theorem slips_iff (deadline : Nat) (s : Store) :
    (blocked (some deadline)).Slips s ↔
      s.readClock.1 < deadline ∧ deadline ≤ s.readClock.2.readClock.1 := by
  show decide (deadline ≤ s.readClock.1) = false ∧
    decide (deadline ≤ s.readClock.2.readClock.1) = true ↔ _
  rw [decide_eq_false_iff_not, decide_eq_true_iff, Nat.not_le]

end Patience

/-! ## Connections -/

namespace Client

section

variable {c : Client} {call : Call}

/-- Taking a connection takes time at most. -/
theorem alike_acquire (c : Client) (call : Call) : c.store.Alike (c.acquire call).2.store := by
  unfold acquire
  dsimp only
  split
  · exact call.patience.alike_awaitSlot _ _
  · rw [store_withPool]
    have connected := c.store.alike_connect call.mode
    have ways := Pool.acquires (connector call.mode) (c.pool call.mode) c.store
    generalize (c.pool call.mode).acquire (connector call.mode) c.store = acquired at ways ⊢
    cases ways with
    | closed => exact .refl _
    | exhausted => exact .refl _
    | reused => exact .refl _
    | unconnected _ _ failed =>
      rw [show c.store.connect call.mode = _ from failed] at connected
      exact connected
    | connected _ _ _ done =>
      rw [show c.store.connect call.mode = _ from done] at connected
      exact connected

/-- A connection that is given back opens nothing, be it reset or not. -/
theorem opensNone_release (c : Client) (mode : Mode) (g : Guard Connection) :
    c.store.OpensNone (c.release mode g).store := by
  rcases Pool.state_release (connector mode) (c.pool mode) g c.store with same | reset
  · rw [release_store, same]
    exact fun _ closed => closed
  · rw [release_store, reset]
    exact Store.opensNone_reset g.connection c.store

/-- A connection whose call has ended is given back as it is. -/
theorem store_release_of_clean (c : Client) (mode : Mode) {g : Guard Connection}
    (clean : g.dirty = false) : (c.release mode g).store = c.store := by
  rw [release_store, Pool.release_eq, Pool.clean, clean]
  rfl

theorem alike_settle {α : Type} (c : Client) (call : Call) (result : TransportResult α) :
    c.store.Alike (c.settle call result).2.store :=
  call.patience.alike_settle call.limit result c.store

theorem opensNone_fail (c : Client) (call : Call) (e : TransportError) :
    c.store.OpensNone (c.fail call e).2.store :=
  (alike_settle c call (.error e : TransportResult Reply)).sameBut.opensNone

/-- A call that fails once it has given its connection back opens nothing any more. -/
theorem opensNone_giveBack (c : Client) (mode : Mode) (g : Guard Connection) (call : Call)
    (e : TransportError) : c.store.OpensNone ((c.release mode g).fail call e).2.store :=
  (opensNone_release c mode g).trans (opensNone_fail _ call e)

/-! ## Opening -/

/-- A call that fails although the first batch is there leaves the cursor open exactly if the
deadline passes between the two looks. -/
theorem handOver_isNew {s : Store} {g : Guard Connection} {batch : Batch} {response : Response}
    (numbered : s.Numbered) (opened : Opened batch.cursor s c.store) (clean : g.dirty = false)
    (failed : (c.handOver call g batch).1 = .error response) (id : Nat) :
    s.IsNew (c.handOver call g batch).2.store id ↔
      batch.cursor = id ∧ id ≠ 0 ∧ call.patience.Slips c.store := by
  have opened : Opened batch.cursor s (onStore call.patience.isLate c).2.store :=
    opened.then_alike (call.patience.alike_isLate c.store)
  rw [handOver_eq] at failed ⊢
  unfold handOverBy at failed ⊢
  cases late : (onStore call.patience.isLate c).1 with
  | true =>
    refine iff_of_false (Store.OpensNone.not_isNew ?_ id) ?_
    · rw [if_pos rfl]
      exact (opened.opensNone_kill numbered g).trans
        (opensNone_giveBack { c with store := _ } call.mode _ call (.timeout 0))
    · rintro ⟨-, -, timely, -⟩
      cases late.symm.trans timely
  | false =>
    rw [late, if_neg Bool.false_ne_true] at failed
    rw [if_neg Bool.false_ne_true]
    have waited := alike_settle (onStore call.patience.isLate c).2 call
      (.ok batch : TransportResult Batch)
    cases settled : (settle (onStore call.patience.isLate c).2 call (.ok batch)).1 with
    | ok kept =>
      rw [settled] at failed
      cases failed
    | error e =>
      have slips : call.patience.Slips c.store := by
        refine ⟨late, ?_⟩
        by_contra timely
        have kept : (settle (onStore call.patience.isLate c).2 call (.ok batch)).1 = .ok batch :=
          Patience.settle_ok (eq_false_of_ne_true timely) call.limit batch
        rw [settled] at kept
        cases kept
      show s.IsNew (release (settle _ call (.ok batch)).2 call.mode g).store id ↔ _
      rw [store_release_of_clean _ _ clean, Store.isNew_congr waited.sameBut,
        opened.isNew_iff numbered]
      exact ⟨fun new => ⟨new.1, new.2, slips⟩, fun left => ⟨left.1, left.2.1⟩⟩

/-- The first batch that a call to open a cursor brings, and the store when it is there. -/
def firstBatch? (c : Client) (mode : Mode) (command : Command) (limit : Option Nat) :
    Option (Batch × Store) :=
  let (call, c) := c.begin mode command limit
  match c.acquire call with
  | (.error _, _) => none
  | (.ok g, c) =>
    match g.call (fun connection s =>
        connection.openCursor call.patience command c.config.batchSize s) c.store with
    | (.error _, _, _) => none
    | (.ok batch, _, s) => some (batch, s)

/-- What a call that fails leaves open. -/
theorem openCursor_isNew (numbered : c.store.Numbered) (mode : Mode) (command : Command)
    (limit : Option Nat) {response : Response}
    (failed : (c.openCursor mode command limit).1 = .error response) (id : Nat) :
    c.store.IsNew (c.openCursor mode command limit).2.store id ↔
      ∃ batch s, c.firstBatch? mode command limit = some (batch, s) ∧ batch.cursor = id ∧ id ≠ 0 ∧
        (c.begin mode command limit).1.patience.Slips s := by
  have read : c.store.Alike (c.begin mode command limit).2.store := c.store.alike_readClock
  unfold openCursor at failed ⊢
  unfold firstBatch?
  revert failed read
  obtain ⟨call, c'⟩ := c.begin mode command limit
  intro failed read
  have waited := read.trans (alike_acquire c' call)
  dsimp only at failed ⊢
  revert failed waited
  obtain ⟨e | g, c''⟩ := c'.acquire call
  · intro _ waited
    refine iff_of_false (Store.OpensNone.not_isNew ?_ id) fun ⟨_, _, wrong, _⟩ => nomatch wrong
    exact waited.sameBut.opensNone.trans (opensNone_fail c'' call e)
  · intro failed waited
    have opening := g.begin.connection.openCursor_cases call.patience command c''.config.batchSize
      c''.store
    unfold Guard.call at failed ⊢
    dsimp only at failed ⊢
    revert failed opening
    obtain ⟨e | batch, k, t⟩ := g.begin.connection.openCursor _ command _ c''.store
    · rintro - (⟨_, -, -, same⟩ | ⟨_, other, -⟩)
      · refine iff_of_false (Store.OpensNone.not_isNew ?_ id) fun ⟨_, _, wrong, _⟩ => nomatch wrong
        exact (waited.sameBut.trans same).opensNone.trans
          (opensNone_giveBack { c'' with store := t } mode _ call e)
      · cases other
    · rintro failed (⟨_, other, -⟩ | ⟨_, same, -, opened⟩)
      · cases other
      · cases same
        have left := handOver_isNew (c := { c'' with store := t }) numbered
          (opened.of_alike waited) rfl failed id
        rw [left]
        constructor
        · exact fun ⟨same, positive, slips⟩ => ⟨batch, t, rfl, same, positive, slips⟩
        · rintro ⟨_, _, same, left⟩
          cases same
          exact left

/-- **A cursor stays open after a failed call exactly if the deadline passes between the two looks
at the clock.** Whatever moves the clock while a blocking call opens a cursor under a deadline: if
the call fails, a cursor that was not open before is open now if and only if it is the one of the
first batch, which was there before the deadline at the first look, and not any more at the
second. -/
theorem left_open_iff (numbered : c.store.Numbered) (command : Command) (limit : Nat)
    {response : Response} (failed : (c.openCursor .sync command (some limit)).1 = .error response)
    (id : Nat) :
    c.store.cursors.get? id = none ∧
        ((c.openCursor .sync command (some limit)).2.store.cursors.get? id).isSome ↔
      ∃ batch s, c.firstBatch? .sync command (some limit) = some (batch, s) ∧
        batch.cursor = id ∧ id ≠ 0 ∧ s.readClock.1 < c.store.readClock.1 + limit ∧
        c.store.readClock.1 + limit ≤ s.readClock.2.readClock.1 := by
  have left := openCursor_isNew numbered .sync command (some limit) failed id
  have patience : (c.begin .sync command (some limit)).1.patience =
      .blocked (some (c.store.readClock.1 + limit)) := rfl
  simp only [patience, Patience.slips_iff] at left
  exact left

end

/-- A client that fetches two documents one by one, by a clock that moves on between its readings. -/
def ticking (drifts : List Nat) : Client :=
  let config : Config := { batchSize := 1 }
  { config
    registry := {}
    store :=
      { collections := [("c", [.obj [("_id", .int 1)], .obj [("_id", .int 2)]])]
        clock := ⟨0, drifts⟩ }
    blockingPool := newPool config.pool
    asyncPool := newPool config.pool }

/-- The deadline is at ten milliseconds. The clock is read at the beginning, at nine, and at ten. -/
theorem left_open_at_deadline :
    let c := ticking [0, 9, 1]
    let command := Command.find "c" { filter := .obj [] }
    c.store.Numbered ∧
      (∃ response, (c.openCursor .sync command (some 10)).1 = .error response) ∧
      (c.store.cursors.get? 1 = none ∧
          ((c.openCursor .sync command (some 10)).2.store.cursors.get? 1).isSome ↔
        ∃ batch s, c.firstBatch? .sync command (some 10) = some (batch, s) ∧
          batch.cursor = 1 ∧ 1 ≠ 0 ∧ s.readClock.1 < c.store.readClock.1 + 10 ∧
          c.store.readClock.1 + 10 ≤ s.readClock.2.readClock.1) := by
  intro c command
  have numbered : c.store.Numbered := ⟨by decide, fun _ wrong => nomatch wrong⟩
  have failed : (c.openCursor .sync command (some 10)).1 = .error _ := rfl
  exact ⟨numbered, ⟨_, failed⟩, left_open_iff numbered command 10 failed 1⟩

/-- The call fails as one that timed out, and the cursor that it opened is still open. -/
theorem late_opening_leaks :
    let command := Command.find "c" { filter := .obj [] }
    let opened := (ticking [0, 9, 1]).openCursor .sync command (some 10)
    opened.1 = .error (.ofResult (.error (.timeout 10))) ∧
      (ticking [0, 9, 1]).store.cursors.get? 1 = none ∧
      (opened.2.store.cursors.get? 1).isSome := by
  exact ⟨rfl, rfl, by decide +kernel⟩

-- A millisecond more at the first look, and the call closes its cursor.
example : (((ticking [0, 10]).openCursor .sync (.find "c" { filter := .obj [] })
    (some 10)).2.store.cursors.get? 1).isSome = false := by
  decide +kernel

end Client

end DocStore
