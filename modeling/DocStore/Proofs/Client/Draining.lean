import DocStore.Proofs.Client.Timely

/-!
# Reading a result through a cursor

A result that is read through a cursor is computed once, when the cursor is opened, and the store
keeps what was not fetched yet (`Store.Keeps`). So the reader gets what the command would have
brought at that moment, whatever happens to the store in between (`Session.drained_as_run`), as long
as every call is in time and the store can be reached. With the last document the cursor is gone.
-/

namespace DocStore

open Client (onStore)
open Lockstep (ahead_of_le)

/-- Whether a command brings documents, be it at once or through a cursor. -/
def Command.bringsDocuments : Command → Bool
  | .find .. => true
  | .aggregate .. => true
  | _ => false

/-! ## What the store keeps -/

namespace Store

/-- The store keeps the rest of a result for a cursor. Of an empty rest nothing is kept, and the
cursor goes on under the number zero. -/
structure Keeps (number : Nat) (rest : List Json) (id : Nat) (s : Store) : Prop where
  id : id = if rest = [] then 0 else number
  state : s.cursors.get? number = if rest = [] then none else some (.buffered rest)

section

variable {s t : Store} {number id : Nat} {rest : List Json} {command : Command}

theorem Keeps.of_same (h : Keeps number rest id s)
    (same : t.cursors.get? number = s.cursors.get? number) : Keeps number rest id t :=
  ⟨h.id, same.trans h.state⟩

theorem Keeps.going (h : Keeps number rest id s) (more : rest ≠ []) :
    id = number ∧ s.cursors.get? number = some (.buffered rest) := by
  have id := h.id
  have state := h.state
  rw [if_neg more] at id state
  exact ⟨id, state⟩

/-- A read takes the next documents off the rest. -/
theorem Keeps.nextBatch (h : Keeps number rest id s) (more : rest ≠ []) (size : Nat) :
    ∃ id, (s.nextBatch number size).1 = .ok (some ⟨id, rest.take (max size 1)⟩) ∧
      Keeps number (rest.drop (max size 1)) id (s.nextBatch number size).2 := by
  obtain ⟨answer, left⟩ := nextBatch_of_buffered (h.going more).2 size
  exact ⟨_, answer, rfl, left⟩

/-- A command that brings documents answers with the result that a cursor would be opened on. -/
theorem exists_result (s : Store) (brings : command.bringsDocuments) :
    ∃ result : Except Refusal (List Json), s.perform command = s.answer .documents result ∧
      s.cursorState command = result.map .buffered := by
  cases command with
  | find collection q => exact ⟨s.find collection q, rfl, rfl⟩
  | aggregate collection pipeline => exact ⟨s.aggregate collection pipeline, rfl, rfl⟩
  | _ => cases brings

/-- **A cursor is opened on what the command would answer**: both fail in the same way, or the
first batch and what the store keeps are the documents of the answer. -/
theorem openCursor_or_execute (s : Store) (brings : command.bringsDocuments) (size : Nat) :
    (∃ e t, s.execute command = (.error e, t) ∧ s.openCursor command size = (.error e, t)) ∨
      ∃ batch rest, (s.execute command).1 = .ok (.documents (batch.documents ++ rest)) ∧
        (s.openCursor command size).1 = .ok batch ∧
        Keeps s.nextCursor rest batch.cursor (s.openCursor command size).2 := by
  obtain ⟨commands, faults, arrived⟩ := s.arrive_frame
  rw [openCursor_eq]
  unfold execute
  revert arrived
  obtain ⟨_ | fault, t⟩ := s.arrive
  · rintro rfl
    dsimp only
    obtain ⟨result, performed, made⟩ := exists_result { s with commands, faults } brings
    rw [performed, made]
    cases result with
    | error refusal => exact .inl ⟨_, _, rfl, rfl⟩
    | ok docs =>
      obtain ⟨answer, left⟩ := nextBatch_of_buffered
        (s := register { s with commands, faults } (.buffered docs))
        (Dictionary.get?_insert_self s.cursors s.nextCursor (.buffered docs)) size
      refine .inr ⟨⟨_, docs.take (max size 1)⟩, docs.drop (max size 1), ?_, ?_, rfl, left⟩
      · rw [List.take_append_drop]
        rfl
      · dsimp only [Except.map] at answer ⊢
        rw [answer]
        rfl
  · exact fun _ => .inl ⟨fault, t, rfl, rfl⟩

/-- A call that is not kept from the store finds it where it can be reached. -/
theorem reachable_of_delay {p : Patience} (through : (s.delay p).1 = .ok ()) :
    s.unreachable = false := by
  cases reach : s.unreachable with
  | false => rfl
  | true =>
    unfold delay at through
    rw [if_pos reach] at through
    cases through

end

end Store

/-! ## Opening a cursor -/

/-- A cursor over a connection is opened on what the command would answer. -/
theorem Connection.openCursor_or_execute (k : Connection) (p : Patience) {command : Command}
    (brings : command.bringsDocuments) (size : Nat) (s : Store) :
    (∃ e t, k.execute p command s = (.error e, k, t) ∧
        k.openCursor p command size s = (.error e, k, t)) ∨
      ∃ batch rest, (k.execute p command s).1 = .ok (.documents (batch.documents ++ rest)) ∧
        (k.openCursor p command size s).1 = .ok batch ∧
        Store.Keeps s.nextCursor rest batch.cursor (k.openCursor p command size s).2.2 ∧
        s.unreachable = false := by
  have waited := s.alike_delay p
  have reachable := Store.reachable_of_delay (s := s) (p := p)
  unfold execute openCursor
  revert waited reachable
  obtain ⟨e | _, t⟩ := s.delay p
  · exact fun _ _ => .inl ⟨e, t, rfl, rfl⟩
  · intro waited reachable
    have next : t.nextCursor = s.nextCursor := by
      obtain ⟨_, _, _, rfl⟩ := waited
      rfl
    dsimp only
    rcases t.openCursor_or_execute brings size with ⟨e, u, failed, failed'⟩ |
      ⟨batch, rest, answered, arrived, keeps⟩
    · rw [failed, failed']
      exact .inl ⟨e, u, rfl, rfl⟩
    · rw [next] at keeps
      revert arrived keeps
      obtain ⟨_ | other, u⟩ := t.openCursor command size
      · exact fun arrived => nomatch arrived
      · intro arrived keeps
        exact .inr ⟨batch, rest, answered, arrived, keeps, reachable rfl⟩

namespace Client

/-- The end of a call that was to be answered. -/
def conclude (call : Call) (result : TransportResult Reply) (c : Client) : Response × Client :=
  finish (settle c call result).2 call (.ofResult (settle c call result).1)

section

variable {command : Command}

/-- A call that is to open a cursor fails as the command would, or a first batch arrives of what
the command would answer. -/
theorem connected_or_sent (brings : command.bringsDocuments) (mode : Mode) (limit : Option Nat)
    (started : Nat) (r : TransportResult (Guard Connection)) (c : Client) :
    let call : Call := ⟨mode, command, limit, started⟩
    (∃ e c', connected call r c = c'.fail call e ∧ sent call r c = (.error e, c')) ∨
      ∃ (g : Guard Connection) (batch : Batch) (rest : List Json) (c' : Client),
        connected call r c = c'.handOver call g batch ∧
        (sent call r c).1 = .ok (.documents (batch.documents ++ rest)) ∧
        c'.store.Keeps c.store.nextCursor rest batch.cursor ∧ c.store.unreachable = false := by
  intro call
  cases r with
  | error e => exact .inl ⟨e, c, rfl, rfl⟩
  | ok g =>
    unfold connected sent
    dsimp only [sendThrough, openThrough, onStore, regroup, Guard.call]
    rcases g.begin.connection.openCursor_or_execute call.patience brings c.config.batchSize c.store
      with ⟨e, t, failed, failed'⟩ | ⟨batch, rest, answered, arrived, keeps, reachable⟩
    · rw [failed, failed']
      exact .inl ⟨e, _, rfl, rfl⟩
    · rw [answered, arrived]
      exact .inr ⟨_, batch, rest, _, rfl, rfl, keeps, reachable⟩

/-- A failed call is concluded with a failure. -/
theorem success_conclude (call : Call) (e : TransportError) (c : Client) :
    (conclude call (.error e) c).1.success = false := by
  obtain ⟨e', settled⟩ := Patience.settle_error Reply call.patience call.limit e c.store
  show (Response.ofResult (call.patience.settle call.limit _ c.store).1).success = false
  rw [settled]
  rfl

/-- An answer in time is the response. -/
theorem conclude_of_ahead {mode : Mode} {limit : Option Nat} {started : Nat} {reply : Reply}
    {c : Client}
    (ahead : Ahead started limit (conclude ⟨mode, command, limit, started⟩ (.ok reply) c).2) :
    (conclude ⟨mode, command, limit, started⟩ (.ok reply) c).1 = .ofReply reply := by
  have settled : (settle c ⟨mode, command, limit, started⟩ (.ok reply)).1 = .ok reply := by
    have ahead : Ahead started limit (settle c ⟨mode, command, limit, started⟩ (.ok reply)).2 :=
      ahead
    simp only [settle, Call.patience_mk] at ahead ⊢
    exact Patience.settle_of_ahead ahead
  show Response.ofResult (settle c ⟨mode, command, limit, started⟩ (.ok reply)).1 = _
  rw [settled]
  rfl

/-- A cursor of a client is opened on what the command would answer, and the rest of it is kept for
the cursor. -/
def OpenedOn (s : Store) (r : Except Response Cursor × Client) (answer : Response) : Prop :=
  ∃ cur rest, r.1 = .ok cur ∧ answer = .documents (cur.buffer ++ rest) ∧ cur.failed = false ∧
    r.2.store.Keeps s.nextCursor rest cur.id ∧ s.unreachable = false

theorem establish_or_carryOut (brings : command.bringsDocuments) {c : Client} (tidy : c.Tidy)
    (mode : Mode) (limit : Option Nat) (started : Nat) :
    (∃ r c', establish command limit mode started c = (.error r, c') ∧
        carryOut command limit mode started c = (r, c') ∧ r.success = false) ∨
      (Ahead started limit (establish command limit mode started c).2 →
        Ahead started limit (carryOut command limit mode started c).2 →
        OpenedOn c.store (establish command limit mode started c)
          (carryOut command limit mode started c).1) := by
  obtain ⟨-, -, waited⟩ := acquire_tidy tidy ⟨mode, command, limit, started⟩
  have carried : carryOut command limit mode started c =
      conclude ⟨mode, command, limit, started⟩ (send c ⟨mode, command, limit, started⟩).1
        (send c ⟨mode, command, limit, started⟩).2 := rfl
  rw [carried, send_eq]
  unfold establish
  dsimp only
  revert waited
  obtain ⟨r, c'⟩ := acquire c ⟨mode, command, limit, started⟩
  intro waited
  have next : c'.store.nextCursor = c.store.nextCursor := by
    obtain ⟨_, _, _, same⟩ := waited
    rw [same]
    rfl
  have reach : c'.store.unreachable = c.store.unreachable := waited.sameBut.unreachable
  dsimp only at next reach ⊢
  rcases connected_or_sent brings mode limit started r c' with
    ⟨e, c'', failed, failed'⟩ | ⟨g, batch, rest, c'', arrived, answered, keeps, reachable⟩
  · rw [failed, failed']
    exact .inl ⟨_, _, rfl, rfl, success_conclude _ e c''⟩
  · rw [arrived, answered]
    refine .inr fun ahead ahead' => ?_
    obtain ⟨handed, alike, -⟩ := handOver_of_ahead ahead
    rw [next] at keeps
    refine ⟨_, rest, handed, conclude_of_ahead ahead', rfl, ?_, reach.symm.trans reachable⟩
    exact keeps.of_same (alike.sameBut.others _ List.not_mem_nil)

/-- **Opening a cursor is like running the command.** Both fail with the same response, or, if both
are in time, the first batch and what the store keeps are the documents of the response. -/
theorem openCursor_or_run (brings : command.bringsDocuments) {c : Client} (tidy : c.Tidy)
    (mode : Mode) (limit : Option Nat) :
    (∃ r c', c.openCursor mode command limit = (.error r, c') ∧
        c.run mode command limit = (r, c') ∧ r.success = false) ∨
      (c.inTime limit (c.openCursor mode command limit).2 →
        c.inTime limit (c.run mode command limit).2 →
        OpenedOn c.store (c.openCursor mode command limit) (c.run mode command limit).1) := by
  have begun := begin_traceless tidy mode command limit
  have next : (c.begin mode command limit).2.store.nextCursor = c.store.nextCursor := rfl
  have reach : (c.begin mode command limit).2.store.unreachable = c.store.unreachable := rfl
  rw [openCursor_eq, run_eq]
  refine (establish_or_carryOut brings begun.tidy mode limit c.store.readClock.1).imp_right
    fun opened inTime inTime' => ?_
  obtain ⟨cur, rest, handed, answer, fresh, keeps, reachable⟩ :=
    opened (ahead_of_inTime inTime) (ahead_of_inTime inTime')
  rw [next] at keeps
  exact ⟨cur, rest, handed, answer, fresh, keeps, reachable⟩

end

end Client

/-! ## Reading -/

/-- A fetch in time brings the next documents of the rest. -/
theorem Connection.getMore_of_ahead (k : Connection) {mode : Mode} {started number id size : Nat}
    {limit : Option Nat} {rest : List Json} {s : Store} (begun : started ≤ s.clock.now)
    (reachable : s.unreachable = false) (keeps : s.Keeps number rest id) (more : rest ≠ [])
    (ahead : Ahead started limit (k.getMore (.of mode started limit) number size s).2.2) :
    ∃ id, (k.getMore (.of mode started limit) number size s).1 =
        .ok ⟨id, rest.take (max size 1)⟩ ∧
      (k.getMore (.of mode started limit) number size s).2.2.Keeps number
        (rest.drop (max size 1)) id ∧
      (k.getMore (.of mode started limit) number size s).2.2.unreachable = false := by
  have waited := (s.alike_delay (.of mode started limit)).sameBut
  have through (ahead : Ahead started limit (s.delay (.of mode started limit)).2) :
      (s.delay (.of mode started limit)).1 = s.reached := (Store.delay_of_ahead begun ahead).1
  revert ahead
  unfold getMore
  revert waited through
  obtain ⟨e | _, t⟩ := s.delay (.of mode started limit)
  · intro _ through ahead
    have reached := through ahead
    unfold Store.reached at reached
    rw [reachable] at reached
    cases reached
  · intro waited _ _
    have keeps := keeps.of_same (waited.others number List.not_mem_nil)
    have kept := (t.sameBut_nextBatch number size).unreachable
    obtain ⟨id, answer, left⟩ := keeps.nextBatch more size
    dsimp only at kept answer left ⊢
    revert kept answer left
    obtain ⟨_ | _ | batch, u⟩ := t.nextBatch number size
    · exact fun _ answer => nomatch answer
    · exact fun _ answer => nomatch answer
    · intro kept answer left
      cases answer
      exact ⟨id, rfl, left, kept.trans (waited.unreachable.trans reachable)⟩

namespace Cursor

/-- A cursor can be read to the end of a result: no fetch has failed, and the store keeps the rest
for it and can be reached. -/
structure Awaits (cur : Cursor) (number : Nat) (rest : List Json) (c : Client) : Prop where
  fresh : cur.failed = false
  positive : number ≠ 0
  keeps : c.store.Keeps number rest cur.id
  reachable : c.store.unreachable = false

section

variable {cur : Cursor} {c : Client} {number : Nat} {rest : List Json}

theorem Awaits.isDone_iff (h : cur.Awaits number rest c) : cur.isDone ↔ rest = [] := by
  have id := h.keeps.id
  unfold isDone
  rw [h.fresh, Bool.false_or, beq_iff_eq, id]
  by_cases last : rest = []
  · simp [last]
  · simp [last, h.positive]

/-- What the reader does with the documents fetched is of no account. -/
theorem Awaits.withBuffer (h : cur.Awaits number rest c) (buffer : List Json) :
    ({ cur with buffer } : Cursor).Awaits number rest c :=
  ⟨h.fresh, h.positive, h.keeps, h.reachable⟩

/-- **A fetch in time brings some of the rest.** -/
theorem Awaits.fetch (h : cur.Awaits number rest c) (more : rest ≠ [])
    (inTime : cur.fetchInTime c) :
    ∃ (cur' : Cursor) (c' : Client) (batch rest' : List Json),
      cur.fetch c = (.ok (), cur', c') ∧ cur'.Awaits number rest' c' ∧ rest = batch ++ rest' ∧
        batch ≠ [] ∧ cur'.buffer = cur.buffer ++ batch := by
  obtain ⟨rfl, -⟩ := h.keeps.going more
  have clock := c.store.alike_readClock.sameBut
  have keeps := h.keeps.of_same (clock.others cur.id List.not_mem_nil)
  have reachable : c.store.readClock.2.unreachable = false := clock.unreachable.trans h.reachable
  have gathered := cur.fetch_eq c
  have ahead : Ahead c.store.readClock.1 cur.limit (regroup (cur.fetch c)).2 :=
    Client.ahead_of_inTime inTime
  rw [gathered] at ahead
  -- The deadline was ahead when the batch arrived, and still was when the cursor looked.
  have late := Patience.isLate_of_ahead (s := (cur.guard.begin.connection.getMore
    (.of cur.mode c.store.readClock.1 cur.limit) cur.id c.config.batchSize
      c.store.readClock.2).2.2) ahead
  have earlier := ahead_of_le ((Patience.isLate_lockstep cur.limit).mono cur.mode _ _) ahead
  obtain ⟨id, answer, left, reach⟩ := cur.guard.begin.connection.getMore_of_ahead
    (Nat.le_of_eq c.store.readClock_fst) reachable keeps more earlier
  have looked := ((Patience.of cur.mode c.store.readClock.1 cur.limit).alike_isLate
    (cur.guard.begin.connection.getMore (.of cur.mode c.store.readClock.1 cur.limit) cur.id
      c.config.batchSize c.store.readClock.2).2.2).sameBut
  have parts : cur.fetch c = ((regroup (cur.fetch c)).1.1, (regroup (cur.fetch c)).1.2,
    (regroup (cur.fetch c)).2) := rfl
  rw [parts, gathered]
  unfold gather
  dsimp only [onStore, regroup, Guard.call]
  rw [answer, late]
  refine ⟨_, _, rest.take (max c.config.batchSize 1), _, rfl, ⟨h.fresh, h.positive,
    left.of_same (looked.others _ List.not_mem_nil), looked.unreachable.trans reach⟩,
    (List.take_append_drop _ _).symm, ?_, rfl⟩
  intro nothing
  rcases List.take_eq_nil_iff.1 nothing with none | none
  · omega
  · exact more none

theorem Awaits.next (h : cur.Awaits number rest c) (inTime : cur.nextInTime c) :
    ∃ (cur' : Cursor) (c' : Client) (rest' : List Json),
      cur.next c = ((cur.buffer ++ rest).head?.map .ok, cur', c') ∧ cur'.Awaits number rest' c' ∧
        cur'.buffer ++ rest' = (cur.buffer ++ rest).tail := by
  unfold nextInTime at inTime
  unfold Cursor.next
  cases read : cur.buffer with
  | cons doc later => exact ⟨_, c, rest, rfl, h.withBuffer later, rfl⟩
  | nil =>
    dsimp only
    by_cases last : rest = []
    · rw [if_pos (h.isDone_iff.2 last), last]
      rw [last] at h
      exact ⟨cur, c, [], rfl, h, by rw [read]; rfl⟩
    · have going : ¬ cur.isDone := fun done => last (h.isDone_iff.1 done)
      rw [if_neg going]
      obtain ⟨cur', c', batch, rest', fetched, awaits, rfl, some, buffer⟩ :=
        h.fetch last (by simpa [read, going] using inTime)
      rw [fetched]
      dsimp only
      rw [read, List.nil_append] at buffer
      rw [buffer]
      cases batch with
      | nil => exact absurd rfl some
      | cons doc later => exact ⟨_, c', rest', rfl, awaits.withBuffer later, rfl⟩

/-- What a reader gets who reads a number of items of some documents; after the last one, the
end. -/
def itemsOf (docs : List Json) (n : Nat) : List (Option (Result Json)) :=
  (List.range n).map fun i => docs[i]?.map .ok

theorem itemsOf_succ (docs : List Json) (n : Nat) :
    itemsOf docs (n + 1) = docs.head?.map .ok :: itemsOf docs.tail n := by
  unfold itemsOf
  rw [List.range_succ_eq_map, List.map_cons, List.map_map, List.head?_eq_getElem?]
  refine congrArg _ (List.map_congr_left fun i _ => ?_)
  show docs[i + 1]?.map _ = docs.tail[i]?.map _
  rw [List.getElem?_tail]

theorem itemsOf_add (docs : List Json) (m n : Nat) :
    itemsOf docs (m + n) = itemsOf docs m ++ itemsOf (docs.drop m) n := by
  unfold itemsOf
  rw [List.range_add, List.map_append, List.map_map]
  refine congrArg _ (List.map_congr_left fun i _ => ?_)
  rw [List.getElem?_drop]
  rfl

theorem length_itemsOf (docs : List Json) (n : Nat) : (itemsOf docs n).length = n := by
  unfold itemsOf
  rw [List.length_map, List.length_range]

/-- **Reads in time bring the documents one after the other, and then the end.** -/
theorem Awaits.take (n : Nat) (h : cur.Awaits number rest c) (inTime : cur.takeInTime n c) :
    ∃ (cur' : Cursor) (c' : Client) (rest' : List Json),
      cur.take n c = (itemsOf (cur.buffer ++ rest) n, cur', c') ∧ cur'.Awaits number rest' c' ∧
        cur'.buffer ++ rest' = (cur.buffer ++ rest).drop n := by
  induction n generalizing cur c rest with
  | zero => exact ⟨cur, c, rest, rfl, h, rfl⟩
  | succ n ih =>
    obtain ⟨first, later⟩ := takeInTime_succ inTime
    obtain ⟨cur', c', rest', read, awaits, left⟩ := h.next first
    rw [read] at later
    obtain ⟨cur'', c'', rest'', others, awaits', left'⟩ := ih awaits later
    rw [left] at others left'
    refine ⟨cur'', c'', rest'', ?_, awaits', ?_⟩
    · rw [take_succ, read, itemsOf_succ]
      dsimp only
      rw [others]
    · rw [left', List.drop_tail]

/-- **Reading to the end in time brings all documents that are left.** -/
theorem Awaits.readOut (n : Nat) (h : cur.Awaits number rest c) (enough : rest.length ≤ n)
    (inTime : cur.readOutInTime n c) :
    (cur.readOut n c).1 = (cur.buffer ++ rest).map .ok := by
  induction n generalizing cur c rest with
  | zero =>
    obtain rfl : rest = [] := List.length_eq_zero_iff.1 (Nat.le_zero.1 enough)
    rw [List.append_nil]
    rfl
  | succ n ih =>
    have emptied : cur.emptied.Awaits number rest c := h.withBuffer []
    rw [readOutInTime_succ] at inTime
    rw [readOut_succ]
    by_cases last : rest = []
    · rw [if_pos (emptied.isDone_iff.2 last), last, List.append_nil]
    · have going : ¬ cur.emptied.isDone := fun done => last (emptied.isDone_iff.1 done)
      rw [if_neg going]
      rw [eq_false_of_ne_true going, Bool.false_or, Bool.and_eq_true] at inTime
      obtain ⟨first, later⟩ := inTime
      obtain ⟨cur', c', batch, rest', fetched, awaits, rfl, some, buffer⟩ :=
        emptied.fetch last first
      rw [fetched] at later ⊢
      have shorter : rest'.length ≤ n := by
        have := List.length_pos_iff.2 some
        rw [List.length_append] at enough
        omega
      have fresh : cur'.buffer = batch := buffer
      dsimp only at later ⊢
      rw [ih awaits shorter later, fresh, ← List.map_append]

theorem Awaits.toList (h : cur.Awaits number rest c)
    (inTime : cur.readOutInTime (c.store.pending cur.id + 1) c) :
    (cur.toList c).1 = (cur.buffer ++ rest).map .ok := by
  have enough : rest.length ≤ c.store.pending cur.id + 1 := by
    by_cases last : rest = []
    · rw [last]
      exact Nat.zero_le _
    · obtain ⟨same, state⟩ := h.keeps.going last
      unfold Store.pending
      rw [same, state]
      exact Nat.le_succ _
  exact h.readOut _ enough inTime

end

end Cursor

/-- The response of documents that were all read. -/
theorem Response.ofItems_ok (docs : List Json) : Response.ofItems (docs.map .ok) = .documents docs := by
  have all : (docs.map (Except.ok : Json → Result Json)).mapM id = .ok docs := by
    rw [Fallible.mapM_eq_ok, List.forall₂_map_left_iff, List.forall₂_same]
    exact fun _ _ => rfl
  unfold Response.ofItems
  rw [all]

/-! ## Sessions -/

namespace Session

/-- The items that a step has brought from the cursor under a name. -/
def itemsIn (name : String) : Action → Outcome → List (Option (Result Json))
  | .take other _, .items items => if other = name then items else []
  | _, _ => []

/-- The items that a run has brought from the cursor under a name, one after the other. -/
def itemsRead (name : String) : Session → List Action → List (Option (Result Json))
  | _, [] => []
  | s, a :: rest => itemsIn name a (s.step a).1 ++ itemsRead name (s.step a).2 rest

/-- The cursor under a name has some documents before it, fetched or kept on the store. -/
structure Reading (name : String) (number : Nat) (docs : List Json) (s : Session) : Prop where
  sound : s.Sound
  known : number < s.client.store.nextCursor
  cursor : ∃ cur rest, s.cursors.get? name = some cur ∧ cur.Awaits number rest s.client ∧
    cur.buffer ++ rest = docs

section

variable {s s' : Session} {a : Action} {name : String} {number : Nat} {docs : List Json}

theorem filterMap_itemsOf (docs : List Json) (n : Nat) :
    (Cursor.itemsOf docs n).filterMap id = (docs.take n).map .ok := by
  induction n generalizing docs with
  | zero => rfl
  | succ n ih =>
    rw [Cursor.itemsOf_succ]
    cases docs with
    | nil =>
      have := ih []
      rw [List.take_nil] at this ⊢
      exact this
    | cons doc docs => exact congrArg (Except.ok doc :: ·) (ih docs)

theorem itemsIn_of_away (away : a.target? ≠ some name) (o : Outcome) : itemsIn name a o = [] := by
  cases a with
  | take other n =>
    cases o with
    | items items => exact if_neg fun e => away (congrArg some e)
    | _ => rfl
  | _ => rfl

/-- Giving a cursor up closes what it held. -/
theorem closed_dropCursor (sound : s.Sound) {id : Nat} (mem : id ∈ s.heldUnder name) :
    (s.dropCursor name).client.store.cursors.get? id = none := by
  obtain ⟨cur, found, mem⟩ := mem_heldUnder.1 mem
  unfold dropCursor
  rw [found]
  exact (Cursor.drop_dropped (sound.owns name cur found) sound.tidy).closed id mem

/-- A number that has been given out and is closed is never open again. -/
theorem Moves.stays_closed (h : Moves a s s') (sound : s.Sound)
    (known : number < s.client.store.nextCursor)
    (closed : s.client.store.cursors.get? number = none) :
    s'.client.store.cursors.get? number = none := by
  have away : number ∉ s.touched a.target? := by
    intro mem
    rcases mem_touched.1 mem with same | ⟨other, -, held⟩
    · exact absurd known (same ▸ Nat.lt_irrefl _)
    · have opened := sound.opened held
      rw [closed] at opened
      cases opened
  rw [h.table number away]
  exact closed

theorem stays_closed {more : List Action} (sound : s.Sound) (once : s.decidesOnce more)
    (known : number < s.client.store.nextCursor)
    (closed : s.client.store.cursors.get? number = none) :
    (s.afterAll more).client.store.cursors.get? number = none := by
  induction more generalizing s with
  | nil => exact closed
  | cons a rest ih =>
    obtain ⟨here, later⟩ := (Bool.and_eq_true _ _).mp once
    have moves := step_moves sound a here
    exact ih (moves.sound sound) later (Nat.lt_of_lt_of_le known moves.next)
      (moves.stays_closed sound known closed)

/-- What others do is of no account to a reader. -/
theorem Reading.of_moves (h : s.Reading name number docs) (moves : Moves a s s')
    (away : a.target? ≠ some name) (reachable : s'.client.store.unreachable = false) :
    s'.Reading name number docs := by
  obtain ⟨cur, rest, found, awaits, docs⟩ := h.cursor
  refine ⟨moves.sound h.sound, Nat.lt_of_lt_of_le h.known moves.next, cur, rest, ?_, ?_, docs⟩
  · rw [moves.others name away]
    exact found
  · refine ⟨awaits.fresh, awaits.positive, awaits.keeps.of_same ?_, reachable⟩
    by_cases last : rest = []
    · have closed : s.client.store.cursors.get? number = none := by
        rw [awaits.keeps.state, if_pos last]
      rw [closed]
      exact moves.stays_closed h.sound h.known closed
    · have going := (awaits.keeps.going last).1
      refine moves.table number (h.sound.untouched away (mem_heldUnder.2 ⟨cur, found, ?_⟩))
      exact Cursor.mem_held.2 ⟨going, awaits.positive⟩

/-- A step takes the documents that it brings off those that are before the reader. -/
theorem Reading.step (h : s.Reading name number docs) (inTime : s.stepInTime a)
    (reads : a.target? = some name → ∃ n, a = .take name n)
    (reach : a ≠ .adjust (.setUnreachable true)) :
    ∃ n, itemsIn name a (s.step a).1 = Cursor.itemsOf docs n ∧
      (s.step a).2.Reading name number (docs.drop n) := by
  have moves := step_moves h.sound a (stepDecidesOnce_of_inTime inTime)
  obtain ⟨cur, rest, found, awaits, split⟩ := h.cursor
  by_cases mine : a.target? = some name
  · obtain ⟨n, rfl⟩ := reads mine
    have timely : cur.takeInTime n s.client := by
      dsimp only [stepInTime] at inTime
      rwa [found] at inTime
    obtain ⟨cur', c', rest', read, awaits', left⟩ := awaits.take n timely
    have taken : s.step (.take name n) = (.items (Cursor.itemsOf (cur.buffer ++ rest) n),
        { client := c', cursors := s.cursors.insert name cur' }) := by
      show s.take name n = _
      unfold Session.take
      rw [found]
      dsimp only
      rw [read]
    rw [taken] at moves ⊢
    rw [split] at left ⊢
    exact ⟨n, if_pos rfl, moves.sound h.sound, Nat.lt_of_lt_of_le h.known moves.next, cur', rest',
      Dictionary.get?_insert_self .., awaits', left⟩
  · refine ⟨0, itemsIn_of_away mine _, h.of_moves moves mine ?_⟩
    by_cases adjusts : ∃ b, a = .adjust (.setUnreachable b)
    · obtain ⟨b, rfl⟩ := adjusts
      cases b with
      | false => rfl
      | true => exact absurd rfl reach
    · exact (moves.reachable fun b e => adjusts ⟨b, e⟩).trans awaits.reachable

theorem Reading.afterAll {later : List Action} (h : s.Reading name number docs)
    (inTime : s.inTime later) (reads : ∀ a ∈ later, a.target? = some name → ∃ n, a = .take name n)
    (reach : .adjust (.setUnreachable true) ∉ later) :
    ∃ n, itemsRead name s later = Cursor.itemsOf docs n ∧
      (s.afterAll later).Reading name number (docs.drop n) := by
  induction later generalizing s docs with
  | nil => exact ⟨0, rfl, h⟩
  | cons a rest ih =>
    obtain ⟨here, later⟩ := (Bool.and_eq_true _ _).mp inTime
    obtain ⟨reads, others⟩ := List.forall_mem_cons.1 reads
    obtain ⟨reach, reaches⟩ := not_or.1 (mt List.mem_cons.2 reach)
    obtain ⟨m, first, reading⟩ := h.step here reads (Ne.symm reach)
    obtain ⟨n, second, left⟩ := ih reading later others reaches
    refine ⟨m + n, ?_, ?_⟩
    · rw [itemsRead, first, second, Cursor.itemsOf_add]
    · rwa [List.drop_drop] at left

/-- What holds of a cursor on some documents after a run: the reads have brought the documents in
order, and then the end; the store keeps what was not fetched, and the cursor knows if that is
nothing; reading to the end brings what is left, and the same response as all documents at once; a
number that is exhausted or given up cannot be read again. -/
structure DrainedBy (name : String) (number : Nat) (docs : List Json) (s : Session)
    (later : List Action) : Prop where
  items : itemsRead name s later = Cursor.itemsOf docs (itemsRead name s later).length
  kept : ∃ cur rest, (s.afterAll later).cursors.get? name = some cur ∧
    cur.buffer ++ rest = docs.drop (itemsRead name s later).length ∧
    (s.afterAll later).client.store.Keeps number rest cur.id
  readOut : (s.afterAll later).stepInTime (.readOut name) →
    ((s.afterAll later).step (.readOut name)).1 =
        .rest ((docs.drop (itemsRead name s later).length).map .ok) ∧
      Response.ofItems ((itemsRead name s later).filterMap id ++
        (docs.drop (itemsRead name s later).length).map .ok) = .documents docs
  exhausted : (s.afterAll later).client.store.cursors.get? number = none →
    ∀ more, (s.afterAll later).decidesOnce more → ∀ size,
      (((s.afterAll later).afterAll more).client.store.nextBatch number size).1 =
        .error (Refusal.cursorNotFound number).toError
  givenUp : ∀ more, ((s.afterAll later).dropCursor name).decidesOnce more → ∀ size,
    ((((s.afterAll later).dropCursor name).afterAll more).client.store.nextBatch number size).1 =
      .error (Refusal.cursorNotFound number).toError

theorem Reading.drainedBy {later : List Action} (h : s.Reading name number docs)
    (inTime : s.inTime later) (reads : ∀ a ∈ later, a.target? = some name → ∃ n, a = .take name n)
    (reach : .adjust (.setUnreachable true) ∉ later) : DrainedBy name number docs s later := by
  obtain ⟨n, items, reading⟩ := h.afterAll inTime reads reach
  obtain ⟨cur, rest, found, awaits, left⟩ := reading.cursor
  have length : (itemsRead name s later).length = n := by
    rw [items, Cursor.length_itemsOf]
  have unreadable {t : Session} {more : List Action} (sound : t.Sound) (once : t.decidesOnce more)
      (known : number < t.client.store.nextCursor)
      (closed : t.client.store.cursors.get? number = none) (size : Nat) :
      ((t.afterAll more).client.store.nextBatch number size).1 =
        .error (Refusal.cursorNotFound number).toError := by
    rw [Store.nextBatch_of_closed (stays_closed sound once known closed)]
  refine ⟨?_, ?_, ?_, ?_, ?_⟩
  · rw [length]
    exact items
  · rw [length]
    exact ⟨cur, rest, found, left, awaits.keeps⟩
  · intro timely
    rw [length]
    refine ⟨?_, ?_⟩
    · dsimp only [stepInTime] at timely
      rw [found] at timely
      show (Session.readOut _ name).1 = _
      unfold Session.readOut
      rw [found]
      dsimp only
      rw [awaits.toList timely, left]
    · rw [items, filterMap_itemsOf, ← List.map_append, List.take_append_drop,
        Response.ofItems_ok]
  · intro closed more once size
    exact unreadable reading.sound once reading.known closed size
  · intro more once size
    have moves := step_moves reading.sound (.drop name) rfl
    rw [step_drop] at moves
    refine unreadable (moves.sound reading.sound) once
      (Nat.lt_of_lt_of_le reading.known moves.next) ?_ size
    by_cases last : rest = []
    · refine moves.stays_closed reading.sound reading.known ?_
      rw [awaits.keeps.state, if_pos last]
    · have going := (awaits.keeps.going last).1
      apply closed_dropCursor reading.sound
      exact mem_heldUnder.2 ⟨cur, found, Cursor.mem_held.2 ⟨going, awaits.positive⟩⟩

/-- Giving up the cursor that had a name leaves the one that was just opened. -/
theorem enter_of_opened (sound : s.Sound) {c' : Client} {id : Nat} (name : String) (cur : Cursor)
    (opened : Store.Opened id s.client.store c'.store) (tidy : c'.Tidy) :
    (s.enter name cur c').client.store.cursors.get? s.client.store.nextCursor =
        c'.store.cursors.get? s.client.store.nextCursor ∧
      s.client.store.nextCursor < (s.enter name cur c').client.store.nextCursor ∧
      (s.enter name cur c').cursors.get? name = some cur := by
  have next : s.client.store.nextCursor < c'.store.nextCursor := by
    rw [opened.next]
    exact Nat.lt_succ_self _
  unfold enter dropCursor
  dsimp only
  cases found : s.cursors.get? name with
  | none => exact ⟨rfl, next, Dictionary.get?_insert_self ..⟩
  | some old =>
    obtain ⟨owned, away⟩ := sound.owns_of_opened found opened
    have dropped := Cursor.drop_dropped owned tidy
    exact ⟨dropped.table.others _ away, Nat.lt_of_lt_of_le next dropped.table.next,
      Dictionary.get?_insert_self ..⟩

theorem run_ofCommand (s : Session) (mode : Mode) (command : Command) (limit : Option Nat) :
    (s.step (.run mode (.ofCommand (.ok command)) limit false)).1 =
      .response (s.client.run mode command (s.limitOf limit)).1 := rfl

theorem openCursor_ofCommand (s : Session) (name : String) (mode : Mode) (command : Command)
    (limit : Option Nat) :
    s.step (.openCursor name mode (.ofCommand (.ok command)) limit) =
      match s.client.openCursor mode command (s.limitOf limit) with
      | (.error response, client) => (.notOpened response, { s with client })
      | (.ok cursor, client) => (.opened cursor.id, s.enter name cursor client) := rfl

/-- **A cursor is opened on what the command would answer at that moment.** -/
theorem reading_of_openCursor (sound : s.Sound) {command : Command}
    (brings : command.bringsDocuments) (name : String) (mode : Mode) (limit : Option Nat)
    (inTime : s.stepInTime (.openCursor name mode (.ofCommand (.ok command)) limit))
    (inTime' : s.stepInTime (.run mode (.ofCommand (.ok command)) limit false)) :
    let opened := s.step (.openCursor name mode (.ofCommand (.ok command)) limit)
    let ran := s.step (.run mode (.ofCommand (.ok command)) limit false)
    (∃ r, ran.1 = .response r ∧ opened.1 = .notOpened r ∧ r.success = false) ∨
      ∃ docs cur, ran.1 = .response (.documents docs) ∧ opened.1 = .opened cur.id ∧
        opened.2.cursors.get? name = some cur ∧
        opened.2.Reading name s.client.store.nextCursor docs := by
  intro opened ran
  have once := stepDecidesOnce_of_inTime inTime
  have moves := step_moves sound _ once
  obtain ⟨tidy, established⟩ := Client.openCursor_established sound.numbered sound.tidy mode
    command (s.limitOf limit) once
  rcases Client.openCursor_or_run brings sound.tidy mode (s.limitOf limit) with
    ⟨r, c', failed, answered, failure⟩ | handed
  · have entered : opened = (.notOpened r, { s with client := c' }) := by
      show s.step _ = _
      rw [openCursor_ofCommand, failed]
    refine .inl ⟨r, ?_, congrArg Prod.fst entered, failure⟩
    show (s.step _).1 = _
    rw [run_ofCommand, answered]
  · obtain ⟨cur, rest, arrived, answer, fresh, keeps, reachable⟩ := handed inTime inTime'
    have reach : opened.2.client.store.unreachable = false :=
      (moves.reachable fun _ => nofun).trans reachable
    have sound' : opened.2.Sound := moves.sound sound
    rcases established with ⟨⟨_, failed⟩, -⟩ | ⟨cur', arrived', registered, -⟩
    · rw [arrived] at failed
      cases failed
    · obtain rfl : cur = cur' := Except.ok.inj (arrived.symm.trans arrived')
      obtain ⟨same, known, found⟩ := enter_of_opened sound name cur registered tidy
      have entered : opened = (.opened cur.id,
          s.enter name cur (s.client.openCursor mode command (s.limitOf limit)).2) := by
        show s.step _ = _
        rw [openCursor_ofCommand]
        revert arrived
        obtain ⟨_ | _, _⟩ := s.client.openCursor mode command (s.limitOf limit)
        · exact fun arrived => nomatch arrived
        · exact fun arrived => by cases arrived; rfl
      rw [entered] at reach sound' ⊢
      refine .inr ⟨cur.buffer ++ rest, cur, congrArg Outcome.response answer, rfl, found, sound',
        known, cur, rest, found, ⟨fresh, ?_, keeps.of_same same, reach⟩, rfl⟩
      exact Nat.ne_of_gt sound.numbered.positive

/-- **Reading a result through a cursor is like running the command.** In every state that a session
can reach, opening a cursor fails with the response that running the command would have, or the
command would answer with some documents, and the cursor brings just these: whatever is done to the
store later, and whatever other cursors do, as long as every call is in time and the store is not
made unreachable. -/
theorem drained_as_run {config : Config} {registry : Registry} {store : Store} {c : Client}
    (made : Client.new config registry store = .ok c) (numbered : store.Numbered)
    (before : List Action) (once : (Session.mk c []).decidesOnce before) {command : Command}
    (brings : command.bringsDocuments) (name : String) (mode : Mode) (limit : Option Nat) :
    let s := (Session.mk c []).afterAll before
    let opening := Action.openCursor name mode (.ofCommand (.ok command)) limit
    let running := Action.run mode (.ofCommand (.ok command)) limit false
    s.stepInTime opening → s.stepInTime running →
      (∃ r, (s.step running).1 = .response r ∧ (s.step opening).1 = .notOpened r ∧
          r.success = false) ∨
        ∃ docs cur, (s.step running).1 = .response (.documents docs) ∧
          (s.step opening).1 = .opened cur.id ∧ (s.step opening).2.cursors.get? name = some cur ∧
          ∀ later, (s.step opening).2.inTime later →
            (∀ a ∈ later, a.target? = some name → ∃ n, a = .take name n) →
            .adjust (.setUnreachable true) ∉ later →
            DrainedBy name s.client.store.nextCursor docs (s.step opening).2 later := by
  intro s opening running inTime inTime'
  have sound : s.Sound := (sound_new made numbered).2.afterAll once
  rcases reading_of_openCursor sound brings name mode limit inTime inTime' with
    failed | ⟨docs, cur, answer, entered, found, reading⟩
  · exact .inl failed
  · exact .inr ⟨docs, cur, answer, entered, found,
      fun later timely reads reach => reading.drainedBy timely reads reach⟩

end

/-- Three documents in batches of two, while all documents are deleted and another cursor comes and
goes. -/
theorem drained_as_run_deletion :
    let config : Config := { batchSize := 2 }
    let client : Client :=
      { config, registry := {}, store := { latency := some 1 },
        blockingPool := Client.newPool config.pool, asyncPool := Client.newPool config.pool }
    let before : List Action :=
      [.adjust (.seed "c" [.obj [("_id", .int 1)], .obj [("_id", .int 2)], .obj [("_id", .int 3)]])]
    let finding : Draft := .ofCommand (.ok (.find "c" { filter := .obj [] }))
    let later : List Action :=
      [.take "a" 1, .run .async (.ofCommand (.ok (.delete "c" (.obj []) true))) none false,
        .openCursor "b" .async (.ofCommand (.ok (.watch "c" []))) none, .take "a" 2, .drop "b",
        .take "a" 2]
    ∃ docs : List Json, docs.length = 3 ∧
      DrainedBy "a" ((Session.mk client []).afterAll before).client.store.nextCursor docs
        (((Session.mk client []).afterAll before).step (.openCursor "a" .sync finding (some 50))).2
        later := by
  intro config client before finding later
  have made : Client.new config {} { latency := some 1 } = .ok client := rfl
  have numbered : Store.Numbered { latency := some 1 } := ⟨Nat.one_pos, fun _ opened => nomatch opened⟩
  have inTime : ((Session.mk client []).afterAll before).stepInTime
      (.openCursor "a" .sync finding (some 50)) := by decide +kernel
  have inTime' : ((Session.mk client []).afterAll before).stepInTime
      (.run .sync finding (some 50) false) := by decide +kernel
  have three : (match (((Session.mk client []).afterAll before).step
      (.run .sync finding (some 50) false)).1 with
    | .response r => if r.success then some r.count else none
    | _ => none) = some 3 := by decide +kernel
  rcases drained_as_run made numbered before (by decide +kernel) rfl "a" .sync (some 50) inTime inTime'
    with ⟨r, answer, -, failure⟩ | ⟨docs, cur, answer, -, -, drained⟩
  · rw [answer] at three
    dsimp only at three
    rw [failure] at three
    cases three
  · rw [answer] at three
    refine ⟨docs, Option.some.inj three, drained later (by decide +kernel) ?_ (by simp [later])⟩
    intro a mem target
    simp only [later, List.mem_cons, List.not_mem_nil, or_false] at mem
    rcases mem with rfl | rfl | rfl | rfl | rfl | rfl
    · exact ⟨1, rfl⟩
    · cases target
    · exact absurd target (by decide)
    · exact ⟨2, rfl⟩
    · exact absurd target (by decide)
    · exact ⟨2, rfl⟩

end Session

end DocStore
