import DocStore.Proofs.Client.Mirror

/-!
# Cursors in both modes

A cursor of one client and the same cursor in the other mode of a client that mirrors it read the
same items, as long as every fetch ends before its deadline.
-/

namespace DocStore.Cursor

open Client (Mirrors onStore)

variable {cur : Cursor} {c d : Client}

theorem patience_eq (cur : Cursor) (now : Nat) :
    cur.patience now = .of cur.mode now cur.limit := by
  obtain ⟨mode, _⟩ := cur
  cases mode <;> rfl

theorem isDone_swap (cur : Cursor) : cur.swap.isDone = cur.isDone := rfl

/-- What readings of a cursor in the two modes have in common. -/
structure SameReading {α : Type} (r r' : α × Cursor × Client) : Prop where
  answer : r'.1 = r.1
  cursor : r'.2.1 = r.2.1.swap
  client : Mirrors r.2.2 r'.2.2

/-! ## Fetches -/

/-- What a cursor makes of the answer to a fetch. -/
def arrived (cur : Cursor) (result : TransportResult Batch) (late : Bool) : Result Unit × Cursor :=
  match result, cur.limit with
  | .error (.timeout _), some limit => (.error (.timeout limit), { cur with failed := true })
  | .error e, _ => (.error e.toError, { cur with failed := true })
  | .ok batch, limit =>
    if late then
      (.error (.timeout (limit.getD 0)), { cur with id := batch.cursor, failed := true })
    else (.ok (), { cur with id := batch.cursor, buffer := cur.buffer ++ batch.documents })

/-- What a cursor makes of an answer does not depend on its mode. -/
theorem arrived_swap (cur : Cursor) (result : TransportResult Batch) (late : Bool) :
    cur.swap.arrived result late =
      ((cur.arrived result late).1, (cur.arrived result late).2.swap) := by
  obtain ⟨mode, guard, id, buffer, limit, failed⟩ := cur
  unfold arrived
  cases result with
  | error e => cases e <;> cases limit <;> rfl
  | ok batch => cases late <;> rfl

/-- A fetch by the cursor in a mode, from a reading of the clock on. -/
def gather (cur : Cursor) (mode : Mode) (started : Nat) (c : Client) :
    (Result Unit × Cursor) × Client :=
  let p := Patience.of mode started cur.limit
  let r := onStore (fun s => regroup (cur.guard.call
    (fun k s => k.getMore p cur.id c.config.batchSize s) s)) c
  let l := onStore p.isLate r.2
  (arrived { cur with mode, guard := r.1.2 } r.1.1 l.1, l.2)

/-- A fetch is a call of its own, timed from a reading of the clock before it. -/
theorem gather_lockstep (cur : Cursor) :
    Lockstep cur.limit (fun r r' : Result Unit × Cursor => r'.1 = r.1 ∧ r'.2 = r.2.swap)
      cur.gather := by
  refine .read (r := fun _ (c : Client) => c.config.batchSize) (G := fun size mode started c =>
    let r := onStore (fun s => regroup (cur.guard.call
      (fun k s => k.getMore (.of mode started cur.limit) cur.id size s) s)) c
    let l := onStore (Patience.of mode started cur.limit).isLate r.2
    (arrived { cur with mode, guard := r.1.2 } r.1.1 l.1, l.2))
    (fun _ _ _ mirrors => congrArg Config.batchSize mirrors.config) fun size => ?_
  have call := Client.onStore_lockstep
    (cur.guard.call_lockstep fun k => k.getMore_lockstep cur.id size cur.limit)
  refine call.bind (G := fun r mode started c =>
    (arrived { cur with mode, guard := r.2 } r.1
      (onStore (Patience.of mode started cur.limit).isLate c).1,
      (onStore (Patience.of mode started cur.limit).isLate c).2)) fun r => ?_
  refine (Client.onStore_lockstep (Patience.isLate_lockstep cur.limit)).bind
    (G := fun late mode _ c => (arrived { cur with mode, guard := r.2 } r.1 late, c))
    fun late => .pure fun mode => ?_
  have := arrived_swap { cur with mode, guard := r.2 } r.1 late
  exact Prod.ext_iff.1 this

/-- The fetch of a cursor is the one of its own mode. -/
theorem fetch_eq (cur : Cursor) (c : Client) :
    regroup (cur.fetch c) = cur.gather cur.mode c.store.readClock.1
      { c with store := c.store.readClock.2 } := by
  unfold fetch gather
  simp only [patience_eq]
  dsimp only [onStore, regroup]
  obtain ⟨result, guard, s⟩ := cur.guard.call _ _
  obtain ⟨late, s⟩ := Patience.isLate _ s
  unfold arrived
  cases result with
  | error e => cases e <;> cases cur.limit <;> rfl
  | ok batch => cases late <;> rfl

/-- Whether a fetch ends before its deadline. -/
def fetchInTime (cur : Cursor) (c : Client) : Bool := c.inTime cur.limit (cur.fetch c).2.2

/-- **Fetches have the same outcome in both modes, if no deadline passes.** -/
theorem fetch_mirrors (mirrors : Mirrors c d) (cur : Cursor) (inTime : cur.fetchInTime c)
    (inTime' : cur.swap.fetchInTime d) : SameReading (cur.fetch c) (cur.swap.fetch d) := by
  have fc := cur.fetch_eq c
  have fd : regroup (cur.swap.fetch d) = cur.gather cur.mode.swap d.store.readClock.1
    { d with store := d.store.readClock.2 } := cur.swap.fetch_eq d
  have timely : c.inTime cur.limit (regroup (cur.fetch c)).2 := inTime
  have timely' : d.inTime cur.limit (regroup (cur.swap.fetch d)).2 := inTime'
  rw [fc] at timely
  rw [fd] at timely'
  have same := Client.Lockstep.begun cur.gather_lockstep mirrors.readClock cur.mode rfl rfl
    timely timely'
  rw [← fc, ← fd] at same
  exact ⟨same.1.1, same.1.2, same.2⟩

/-! ## Reading -/

/-- Whether a cursor reads its next item without passing a deadline. -/
def nextInTime (cur : Cursor) (c : Client) : Bool :=
  !cur.buffer.isEmpty || cur.isDone || cur.fetchInTime c

/-- Whether a cursor reads a number of items without passing a deadline. -/
def takeInTime : Nat → Cursor → Client → Bool
  | 0, _, _ => true
  | n + 1, cur, c =>
    let (_, cur', c') := cur.next c
    cur.nextInTime c && takeInTime n cur' c'

/-- Whether a cursor reads all items, with a number of fetches at most, without passing a
deadline. -/
def readOutInTime : Nat → Cursor → Client → Bool
  | 0, _, _ => true
  | n + 1, cur, c =>
    let cur := { cur with buffer := [] }
    cur.isDone || cur.fetchInTime c && match cur.fetch c with
      | (.error _, _, _) => true
      | (.ok (), cur, c) => readOutInTime n cur c

/-- The next item comes from the buffer, which is the same in both modes, or from a fetch. -/
theorem next_mirrors (mirrors : Mirrors c d) (cur : Cursor) (inTime : cur.nextInTime c)
    (inTime' : cur.swap.nextInTime d) : SameReading (cur.next c) (cur.swap.next d) := by
  have buffer : cur.swap.buffer = cur.buffer := rfl
  unfold nextInTime at inTime inTime'
  unfold next
  rw [buffer, isDone_swap] at inTime' ⊢
  cases read : cur.buffer with
  | cons doc rest => exact ⟨rfl, rfl, mirrors⟩
  | nil =>
    dsimp only
    by_cases done : cur.isDone
    · rw [if_pos done, if_pos done]
      exact ⟨rfl, rfl, mirrors⟩
    · rw [if_neg done, if_neg done]
      have same := fetch_mirrors mirrors cur (by simpa [read, done] using inTime)
        (by simpa [read, done] using inTime')
      revert same
      obtain ⟨answer, after, c⟩ := cur.fetch c
      obtain ⟨answer', after', d⟩ := cur.swap.fetch d
      rintro ⟨sameAnswer, sameCursor, mirrors⟩
      obtain rfl : answer' = answer := sameAnswer
      obtain rfl : after' = after.swap := sameCursor
      have buffer : after.swap.buffer = after.buffer := rfl
      cases answer' with
      | error e => exact ⟨rfl, rfl, mirrors⟩
      | ok =>
        dsimp only
        rw [buffer]
        cases after.buffer with
        | nil => exact ⟨rfl, rfl, mirrors⟩
        | cons doc rest => exact ⟨rfl, rfl, mirrors⟩

theorem take_succ (n : Nat) (cur : Cursor) (c : Client) :
    cur.take (n + 1) c =
      let r := cur.next c
      let rest := r.2.1.take n r.2.2
      (r.1 :: rest.1, rest.2.1, rest.2.2) := rfl

theorem takeInTime_succ {n : Nat} {cur : Cursor} {c : Client} (h : cur.takeInTime (n + 1) c) :
    cur.nextInTime c ∧ (cur.next c).2.1.takeInTime n (cur.next c).2.2 :=
  (Bool.and_eq_true _ _).mp h

/-- Items are read one after the other; no deadline passes in any of the fetches. -/
theorem take_mirrors (n : Nat) (mirrors : Mirrors c d) (cur : Cursor)
    (inTime : cur.takeInTime n c) (inTime' : cur.swap.takeInTime n d) :
    SameReading (cur.take n c) (cur.swap.take n d) := by
  induction n generalizing cur c d with
  | zero => exact ⟨rfl, rfl, mirrors⟩
  | succ n ih =>
    obtain ⟨first, later⟩ := takeInTime_succ inTime
    obtain ⟨first', later'⟩ := takeInTime_succ inTime'
    have same := next_mirrors mirrors cur first first'
    rw [same.cursor] at later'
    have rest := ih same.client (cur.next c).2.1 later later'
    rw [take_succ, take_succ]
    dsimp only
    rw [same.cursor, same.answer, rest.answer]
    exact ⟨rfl, rest.cursor, rest.client⟩

/-- The cursor once its buffer was read. -/
def emptied (cur : Cursor) : Cursor := { cur with buffer := [] }

theorem readOut_succ (n : Nat) (cur : Cursor) (c : Client) :
    cur.readOut (n + 1) c =
      if cur.emptied.isDone then (cur.buffer.map .ok, cur.emptied, c)
      else match cur.emptied.fetch c with
        | (.error e, cur', c) => (cur.buffer.map .ok ++ [.error e], cur', c)
        | (.ok (), cur', c) =>
          let rest := cur'.readOut n c
          (cur.buffer.map .ok ++ rest.1, rest.2.1, rest.2.2) := rfl

theorem readOutInTime_succ (n : Nat) (cur : Cursor) (c : Client) :
    cur.readOutInTime (n + 1) c = (cur.emptied.isDone || cur.emptied.fetchInTime c &&
      match cur.emptied.fetch c with
        | (.error _, _, _) => true
        | (.ok (), cur, c) => cur.readOutInTime n c) := rfl

/-- Up to the end or the first failure, both read the same items with the same number of fetches. -/
theorem readOut_mirrors (n : Nat) (mirrors : Mirrors c d) (cur : Cursor)
    (inTime : cur.readOutInTime n c) (inTime' : cur.swap.readOutInTime n d) :
    SameReading (cur.readOut n c) (cur.swap.readOut n d) := by
  induction n generalizing cur c d with
  | zero => exact ⟨rfl, rfl, mirrors⟩
  | succ n ih =>
    have swapped : cur.swap.emptied = cur.emptied.swap := rfl
    have buffer : cur.swap.buffer = cur.buffer := rfl
    rw [readOutInTime_succ] at inTime inTime'
    rw [readOut_succ, readOut_succ, buffer]
    rw [swapped, isDone_swap] at inTime' ⊢
    by_cases done : cur.emptied.isDone
    · rw [if_pos done, if_pos done]
      exact ⟨rfl, rfl, mirrors⟩
    · rw [if_neg done, if_neg done]
      rw [eq_false_of_ne_true done, Bool.false_or, Bool.and_eq_true] at inTime inTime'
      obtain ⟨first, later⟩ := inTime
      obtain ⟨first', later'⟩ := inTime'
      have same := fetch_mirrors mirrors cur.emptied first first'
      revert same later later'
      obtain ⟨answer, after, c⟩ := cur.emptied.fetch c
      obtain ⟨answer', after', d⟩ := cur.emptied.swap.fetch d
      rintro later later' ⟨sameAnswer, sameCursor, mirrors⟩
      obtain rfl : answer' = answer := sameAnswer
      obtain rfl : after' = after.swap := sameCursor
      cases answer' with
      | error e => exact ⟨rfl, rfl, mirrors⟩
      | ok =>
        have rest := ih mirrors after later later'
        dsimp only
        rw [rest.answer]
        exact ⟨rfl, rest.cursor, rest.client⟩

/-! ## The end of a cursor -/

/-- To drop a cursor takes no time, whatever the limit of its fetches. -/
theorem drop_mirrors (mirrors : Mirrors c d) (cur : Cursor) :
    Mirrors (cur.drop c) (cur.swap.drop d) := by
  have kill : Lockstep none Eq fun _ _ => onStore (cur.guard.kill cur.id) :=
    Client.onStore_lockstep (.of_timeless (cur.guard.timeless_kill cur.id))
  have pieces := kill.bind (G := fun guard mode _ c => ((), Client.release c mode guard))
    fun guard => Client.release_lockstep guard
  exact (Client.Lockstep.anytime pieces mirrors cur.mode).2

theorem pending_eq {s t : Store} (alike : s.Alike t) (cursor : Nat) :
    t.pending cursor = s.pending cursor := by
  obtain ⟨_, _, _, rfl⟩ := alike
  rfl

/-- **A cursor is read to its end with the same items in both modes, if no deadline passes.** -/
theorem toList_mirrors (mirrors : Mirrors c d) (cur : Cursor)
    (inTime : cur.readOutInTime (c.store.pending cur.id + 1) c)
    (inTime' : cur.swap.readOutInTime (d.store.pending cur.id + 1) d) :
    (cur.swap.toList d).1 = (cur.toList c).1 ∧
      Mirrors (cur.toList c).2 (cur.swap.toList d).2 := by
  have swapped : cur.swap.id = cur.id := rfl
  rw [pending_eq mirrors.store] at inTime'
  unfold toList
  rw [swapped, pending_eq mirrors.store]
  have same := readOut_mirrors _ mirrors cur inTime inTime'
  refine ⟨same.answer, ?_⟩
  have dropped := drop_mirrors same.client (cur.readOut (c.store.pending cur.id + 1) c).2.1
  rw [← same.cursor] at dropped
  exact dropped

end DocStore.Cursor
