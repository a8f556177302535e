import DocStore.Proofs.Client.Reading
import DocStore.Proofs.Store.ConnectionCalls

/-!
# Who closes a cursor

A cursor of a client owns at most one cursor of the store (`Cursor.Owns`): it is open there, and the
connection in use tracks it and nothing else. Reading moves the cursor on or ends it
(`Cursor.Advances`), and dropping closes it. All other work of a client opens no cursor, and returns
connections that track none (`Client.Traceless`).
-/

namespace DocStore

open Store (SameBut Opened)

/-! ## Waiting -/

namespace Patience

theorem alike_settle {α : Type} (p : Patience) (limit : Option Nat) (result : TransportResult α)
    (s : Store) : s.Alike (p.settle limit result s).2 := by
  unfold settle
  split
  · exact .refl s
  · split
    · exact .refl s
    · exact p.alike_isLate s

/-- A failure stays a failure, be it late or not. -/
theorem settle_error (α : Type) (p : Patience) (limit : Option Nat) (e : TransportError)
    (s : Store) : ∃ e', (p.settle limit (.error e : TransportResult α) s).1 = .error e' := by
  unfold settle
  split
  · exact ⟨e, rfl⟩
  · split
    · exact ⟨_, rfl⟩
    · dsimp only
      split
      · exact ⟨_, rfl⟩
      · exact ⟨e, rfl⟩

/-- A result in time is kept. -/
theorem settle_ok {α : Type} {p : Patience} {s : Store} (timely : (p.isLate s).1 = false)
    (limit : Option Nat) (a : α) : (p.settle limit (.ok a) s).1 = .ok a := by
  unfold settle
  split
  · rfl
  · dsimp only [TransportResult.isTimeout]
    rw [timely]
    rfl

end Patience

theorem Client.pool_withStore (c : Client) (s : Store) (mode : Mode) :
    ({ c with store := s } : Client).pool mode = c.pool mode := by
  cases mode <;> rfl

/-! ## Cursors -/

namespace Cursor

/-- The cursor of the store that a cursor has to close. -/
def held (cur : Cursor) : List Nat := if cur.id = 0 then [] else [cur.id]

theorem mem_held {cur : Cursor} {id : Nat} : id ∈ cur.held ↔ cur.id = id ∧ id ≠ 0 := by
  unfold held
  by_cases done : cur.id = 0
  · rw [if_pos done, done]
    simp [eq_comm]
  · rw [if_neg done, List.mem_singleton]
    constructor
    · rintro rfl
      exact ⟨rfl, done⟩
    · exact fun h => h.1.symm

theorem held_of_going {cur : Cursor} (going : cur.id ≠ 0) : cur.held = [cur.id] := if_neg going

theorem held_of_done {cur : Cursor} (done : cur.id = 0) : cur.held = [] := if_pos done

/-- What a cursor holds is open, and its connection tracks just that. -/
structure Owns (cur : Cursor) (s : Store) : Prop where
  tracked : cur.guard.connection.cursors = cur.held
  opened : ∀ id ∈ cur.held, (s.cursors.get? id).isSome

section

variable {cur : Cursor} {s t : Store}

/-- A cursor that was opened holds the number that was next, if it holds any. -/
theorem eq_next_of_opened (opened : Opened cur.id s t) {id : Nat} (mem : id ∈ cur.held) :
    id = s.nextCursor := by
  obtain ⟨rfl, positive⟩ := mem_held.1 mem
  rcases opened.state with ⟨done, -⟩ | ⟨next, -⟩
  · exact absurd done positive
  · exact next

/-- A cursor owns what was opened for it on a connection of its own. -/
theorem owns_of_opened (opened : Opened cur.id s t)
    (tracked : cur.guard.connection.cursors = cur.held) : cur.Owns t := by
  refine ⟨tracked, fun id mem => ?_⟩
  rw [eq_next_of_opened opened mem]
  rcases opened.state with ⟨done, -⟩ | ⟨-, present⟩
  · rw [held_of_done done] at mem
    cases mem
  · exact present

theorem closed_of_opened (numbered : s.Numbered) (opened : Opened cur.id s t)
    (gone : s.nextCursor ∉ cur.held) : t.cursors.get? s.nextCursor = none := by
  rcases opened.state with ⟨-, closed⟩ | ⟨next, -⟩
  · exact closed
  · have positive := Nat.ne_of_gt numbered.positive
    exact absurd (mem_held.2 ⟨next, positive⟩) gone

end

/-- A cursor has been read: it holds what it held, or it has ended and that is closed. -/
structure Advances (cur : Cursor) (c : Client) (cur' : Cursor) (c' : Client) : Prop where
  table : SameBut cur.held c.store c'.store
  pool : ∀ mode, c'.pool mode = c.pool mode
  held : cur'.held ⊆ cur.held
  owns : cur'.Owns c'.store
  ended : ∀ id ∈ cur.held, id ∉ cur'.held → c'.store.cursors.get? id = none

section

variable {cur cur' cur'' : Cursor} {c c' c'' : Client}

/-- What happens between the buffer of a cursor and its reader is of no account. -/
theorem Advances.of_same (owns : cur.Owns c.store) (id : cur'.id = cur.id)
    (guard : cur'.guard = cur.guard) : Advances cur c cur' c := by
  have held : cur'.held = cur.held := by
    unfold Cursor.held
    rw [id]
  refine ⟨.refl _, fun _ => rfl, ?_, ⟨?_, ?_⟩, ?_⟩
  · rw [held]
    exact fun _ mem => mem
  · rw [guard, held]
    exact owns.tracked
  · rw [held]
    exact owns.opened
  · intro other mem gone
    rw [held] at gone
    exact absurd mem gone

theorem Advances.trans (h : Advances cur c cur' c') (h' : Advances cur' c' cur'' c'') :
    Advances cur c cur'' c'' where
  table := h.table.trans (h'.table.mono h.held)
  pool := fun mode => (h'.pool mode).trans (h.pool mode)
  held := fun _ mem => h.held (h'.held mem)
  owns := h'.owns
  ended := by
    intro id mem gone
    by_cases still : id ∈ cur'.held
    · exact h'.ended id still gone
    · rw [h'.table.others id still]
      exact h.ended id mem still

/-- What a cursor makes of an answer: a batch says under which number it goes on. -/
theorem arrived_cases (cur : Cursor) (result : TransportResult Batch) (late : Bool) :
    (cur.arrived result late).2.guard = cur.guard ∧
      (cur.arrived result late).2.id = match result with
        | .ok batch => batch.cursor
        | .error _ => cur.id := by
  unfold arrived
  cases result with
  | error e => cases e <;> cases cur.limit <;> exact ⟨rfl, rfl⟩
  | ok batch => cases late <;> exact ⟨rfl, rfl⟩

/-- A fetch as the cursor sees it: what the connection brought is entered in the cursor. -/
theorem Advances.of_arrived {result : TransportResult Batch} {k : Connection} {dirty late : Bool}
    {t u : Store} (owns : cur.Owns c.store) (going : cur.id ≠ 0)
    (fetched : Connection.Fetched cur.guard.connection cur.id c.store result k t)
    (looked : t.Alike u) :
    Advances cur c (arrived { cur with guard := ⟨k, dirty⟩ } result late).2
      { c with store := u } := by
  obtain ⟨guard, id⟩ := arrived_cases { cur with guard := ⟨k, dirty⟩ } result late
  generalize (arrived { cur with guard := ⟨k, dirty⟩ } result late).2 = cur' at guard id ⊢
  have held := held_of_going going
  have tracked := owns.tracked
  rw [held] at tracked
  have look : u.cursors.get? cur.id = t.cursors.get? cur.id :=
    looked.sameBut.others _ List.not_mem_nil
  have table : SameBut cur.held c.store u := by
    rw [held]
    exact fetched.table.trans looked.sameBut.of_nil
  have pool := c.pool_withStore u
  rcases fetched.outcome with ⟨docs, rfl, rfl, closed⟩ | ⟨goesOn, rfl, opened⟩
  · have empty := held_of_done id
    refine ⟨table, pool, ?_, ⟨?_, ?_⟩, ?_⟩
    · rw [empty]
      exact List.nil_subset _
    · rw [guard, empty]
      exact Connection.cursors_forget tracked
    · rw [empty]
      exact fun _ mem => absurd mem List.not_mem_nil
    · intro other mem _
      rw [held] at mem
      rw [List.mem_singleton.1 mem]
      exact look.trans closed
  · have same : cur'.id = cur.id := by
      rw [id]
      cases result with
      | error e => rfl
      | ok batch => exact goesOn batch rfl
    have kept : cur'.held = [cur.id] := by
      rw [held_of_going (by rwa [same]), same]
    refine ⟨table, pool, ?_, ⟨?_, ?_⟩, ?_⟩
    · rw [kept, held]
      exact fun _ mem => mem
    · rw [guard, kept]
      exact tracked
    · rw [kept]
      intro other mem
      rw [List.mem_singleton.1 mem]
      show (u.cursors.get? cur.id).isSome
      rw [look]
      exact opened
    · intro other mem gone
      rw [kept] at gone
      rw [held] at mem
      exact absurd mem gone

theorem gather_advances (owns : cur.Owns c.store) (going : cur.id ≠ 0) (started : Nat) :
    Advances cur c (cur.gather cur.mode started c).1.2 (cur.gather cur.mode started c).2 := by
  have opened : (c.store.cursors.get? cur.id).isSome :=
    owns.opened cur.id (mem_held.2 ⟨rfl, going⟩)
  exact .of_arrived owns going (Connection.fetched_getMore _ _ _ opened going)
    (Patience.alike_isLate _ _)

theorem going_of_not_done (going : ¬ cur.isDone) : cur.id ≠ 0 := by
  intro done
  apply going
  simp [isDone, done]

/-- A fetch changes no cursor of the store but its own. -/
theorem fetch_advances (owns : cur.Owns c.store) (going : ¬ cur.isDone) :
    Advances cur c (cur.fetch c).2.1 (cur.fetch c).2.2 := by
  have clock := c.store.alike_readClock.sameBut
  have owned : cur.Owns c.store.readClock.2 := by
    refine ⟨owns.tracked, fun id mem => ?_⟩
    rw [clock.others id List.not_mem_nil]
    exact owns.opened id mem
  have gathered := gather_advances (c := { c with store := c.store.readClock.2 }) owned
    (going_of_not_done going) c.store.readClock.1
  rw [← fetch_eq] at gathered
  exact ⟨clock.of_nil.trans gathered.table,
    fun mode => (gathered.pool mode).trans (c.pool_withStore _ mode), gathered.held,
    gathered.owns, gathered.ended⟩

theorem next_advances (owns : cur.Owns c.store) :
    Advances cur c (cur.next c).2.1 (cur.next c).2.2 := by
  unfold next
  split
  · exact .of_same owns rfl rfl
  · split
    · exact .of_same owns rfl rfl
    · rename_i going
      have fetched := fetch_advances owns going
      revert fetched
      obtain ⟨e | _, cur', c'⟩ := cur.fetch c
      · exact fun fetched => fetched
      · intro fetched
        dsimp only at fetched ⊢
        split
        · exact fetched.trans (.of_same fetched.owns rfl rfl)
        · exact fetched

/-- Nor does reading a number of items. -/
theorem take_advances (n : Nat) (owns : cur.Owns c.store) :
    Advances cur c (cur.take n c).2.1 (cur.take n c).2.2 := by
  induction n generalizing cur c with
  | zero => exact .of_same owns rfl rfl
  | succ n ih =>
    have first := next_advances owns
    rw [take_succ]
    exact first.trans (ih first.owns)

theorem readOut_advances (n : Nat) (owns : cur.Owns c.store) :
    Advances cur c (cur.readOut n c).2.1 (cur.readOut n c).2.2 := by
  induction n generalizing cur c with
  | zero => exact .of_same owns rfl rfl
  | succ n ih =>
    have emptied : Advances cur c cur.emptied c := .of_same owns rfl rfl
    rw [readOut_succ]
    split
    · exact emptied
    · rename_i going
      have fetched := emptied.trans (fetch_advances emptied.owns going)
      revert fetched
      obtain ⟨e | _, cur', c'⟩ := cur.emptied.fetch c
      · exact fun fetched => fetched
      · exact fun fetched => fetched.trans (ih fetched.owns)

end

end Cursor

/-! ## Pools -/

namespace Pool

/-- Idle connections track no cursors. -/
def Tidy (p : Pool Connection) : Prop := ∀ k ∈ p.idle, k.cursors = []

/-- A slot is taken along with an idle connection, if there is one. -/
theorem takeSlot_cases (p : Pool Connection) :
    (∃ e, p.takeSlot = (.error e, p)) ∨
      p.takeSlot = (.ok p.idle.head?, { p with inUse := p.inUse + 1, idle := p.idle.tail }) := by
  unfold takeSlot
  split
  · exact .inl ⟨_, rfl⟩
  · split
    · exact .inr rfl
    · exact .inl ⟨_, rfl⟩

/-- A connection that is handed out tracks no cursors. -/
theorem acquire_tidy {p : Pool Connection} (tidy : p.Tidy) (mode : Mode) (s : Store) :
    (p.acquire (Client.connector mode) s).2.1.Tidy ∧
      (∀ g, (p.acquire (Client.connector mode) s).1 = .ok g → g.connection.cursors = []) ∧
      s.Alike (p.acquire (Client.connector mode) s).2.2 := by
  unfold acquire
  rcases p.takeSlot_cases with ⟨e, taken⟩ | taken
  · rw [taken]
    exact ⟨tidy, fun _ wrong => (nomatch wrong), .refl s⟩
  · rw [taken]
    cases idle : p.idle with
    | cons k rest =>
      unfold Tidy at tidy
      rw [idle] at tidy
      obtain ⟨first, others⟩ := List.forall_mem_cons.1 tidy
      refine ⟨others, fun g same => ?_, .refl s⟩
      cases same
      exact first
    | nil =>
      have connected := s.alike_connect mode
      have fresh (k : Connection) (h : (s.connect mode).1 = .ok k) : k.cursors = [] :=
        Store.cursors_connect h
      dsimp only [List.head?_nil, Client.connector]
      revert connected fresh
      obtain ⟨e | k, t⟩ := s.connect mode
      · exact fun connected _ =>
          ⟨fun _ mem => absurd mem List.not_mem_nil, fun _ wrong => (nomatch wrong), connected⟩
      · intro connected fresh
        refine ⟨fun _ mem => absurd mem List.not_mem_nil, fun g same => ?_, connected⟩
        cases same
        exact fresh k rfl

/-- A connection that is taken back without cursors leaves the pool tidy. -/
theorem release_tidy {p : Pool Connection} (tidy : p.Tidy) {g : Guard Connection}
    (closed : g.connection.cursors = []) (mode : Mode) (s : Store) :
    (p.release (Client.connector mode) g s).1.Tidy ∧
      SameBut [] s (p.release (Client.connector mode) g s).2 := by
  have cleaned : (p.clean (Client.connector mode) g s).1.cursors = [] ∧
      (p.clean (Client.connector mode) g s).2.1.Tidy ∧
      SameBut [] s (p.clean (Client.connector mode) g s).2.2 := by
    unfold clean
    split
    · show (g.connection.reset s).1.cursors = [] ∧ _ ∧ SameBut [] s (g.connection.reset s).2
      rw [Connection.reset_of_idle closed]
      exact ⟨rfl, tidy, fun _ _ => rfl, Nat.le_refl _, rfl⟩
    · exact ⟨closed, tidy, .refl s⟩
  obtain ⟨idle, tidied, same⟩ := cleaned
  rw [release_eq]
  refine ⟨?_, same⟩
  unfold returned
  split
  · exact List.forall_mem_cons.2 ⟨idle, tidied⟩
  · exact tidied

end Pool

/-! ## Calls -/

/-- Whether a caller who looks at the clock twice finds the same both times. -/
def Patience.decidesOnce (p : Patience) (s : Store) : Bool :=
  (p.isLate (p.isLate s).2).1 == (p.isLate s).1

namespace Client

/-- Idle connections track no cursors. -/
def Tidy (c : Client) : Prop := ∀ mode, (c.pool mode).Tidy

/-- Work was done that opened and closed no cursor, and that returned connections which track
none. -/
structure Traceless (c c' : Client) : Prop where
  table : SameBut [] c.store c'.store
  tidy : c'.Tidy

section

variable {c c' c'' : Client}

theorem Traceless.trans (h : Traceless c c') (h' : Traceless c' c'') : Traceless c c'' :=
  ⟨h.table.trans h'.table, h'.tidy⟩

theorem Tidy.of_pool (tidy : c.Tidy) (same : ∀ mode, c'.pool mode = c.pool mode) : c'.Tidy := by
  intro mode
  rw [same mode]
  exact tidy mode

theorem Tidy.withStore (tidy : c.Tidy) (s : Store) : ({ c with store := s } : Client).Tidy :=
  tidy.of_pool (c.pool_withStore s)

theorem Tidy.withPool (tidy : c.Tidy) {p : Pool Connection} (tidied : p.Tidy) (mode : Mode)
    (s : Store) : (c.withPool mode p s).Tidy := by
  intro other
  rw [pool_withPool]
  split
  · exact tidied
  · exact tidy other

theorem traceless_record (tidy : c.Tidy) (r : CallRecord) : Traceless c (c.record r) := by
  refine ⟨.refl _, tidy.of_pool fun mode => ?_⟩
  cases mode <;> rfl

theorem traceless_withStore (tidy : c.Tidy) {s : Store} (alike : c.store.Alike s) :
    Traceless c { c with store := s } :=
  ⟨alike.sameBut, tidy.withStore s⟩

/-- A connection is handed out without cursors, after a wait at most. -/
theorem acquire_tidy (tidy : c.Tidy) (call : Call) :
    (c.acquire call).2.Tidy ∧
      (∀ g, (c.acquire call).1 = .ok g → g.connection.cursors = []) ∧
      c.store.Alike (c.acquire call).2.store := by
  unfold acquire
  dsimp only
  split
  · exact ⟨tidy.withStore _, fun _ wrong => (nomatch wrong), call.patience.alike_awaitSlot _ _⟩
  · obtain ⟨tidied, closed, waited⟩ := Pool.acquire_tidy (tidy call.mode) call.mode c.store
    refine ⟨tidy.withPool tidied _ _, closed, ?_⟩
    rw [store_withPool]
    exact waited

/-- A connection without open cursors leaves no trace when it is given back. -/
theorem release_traceless (tidy : c.Tidy) {g : Guard Connection}
    (closed : g.connection.cursors = []) (mode : Mode) : Traceless c (c.release mode g) := by
  obtain ⟨tidied, same⟩ := Pool.release_tidy (tidy mode) closed mode c.store
  refine ⟨?_, tidy.withPool tidied _ _⟩
  show SameBut [] c.store (c.withPool mode _ _).store
  rw [store_withPool]
  exact same

theorem settle_traceless {α : Type} (tidy : c.Tidy) (call : Call) (result : TransportResult α) :
    Traceless c (c.settle call result).2 :=
  traceless_withStore tidy (call.patience.alike_settle _ _ _)

theorem sendThrough_traceless (tidy : c.Tidy) (call : Call) {g : Guard Connection}
    (closed : g.connection.cursors = []) : Traceless c (sendThrough call g c).2 := by
  obtain ⟨same, table⟩ :=
    g.begin.connection.execute_traceless call.patience call.command c.store
  have executed : Traceless c (onStore (fun s => regroup (g.call
      (fun k s => k.execute call.patience call.command s) s)) c).2 :=
    ⟨table, tidy.withStore _⟩
  refine executed.trans (release_traceless executed.tidy ?_ call.mode)
  show (g.begin.connection.execute call.patience call.command c.store).2.1.cursors = []
  rw [same]
  exact closed

theorem send_traceless (tidy : c.Tidy) (call : Call) : Traceless c (c.send call).2 := by
  obtain ⟨tidied, closed, waited⟩ := acquire_tidy tidy call
  have acquired : Traceless c (c.acquire call).2 := ⟨waited.sameBut, tidied⟩
  rw [send_eq]
  cases taken : (c.acquire call).1 with
  | error e => exact acquired
  | ok g => exact acquired.trans (sendThrough_traceless tidied call (closed g taken))

theorem begin_traceless (tidy : c.Tidy) (mode : Mode) (command : Command) (limit : Option Nat) :
    Traceless c (c.begin mode command limit).2 :=
  (traceless_withStore tidy c.store.alike_readClock).trans
    (traceless_record (tidy.withStore _) _)

/-- **Running a command opens and closes no cursor.** -/
theorem run_traceless (tidy : c.Tidy) (mode : Mode) (command : Command) (limit : Option Nat) :
    Traceless c (c.run mode command limit).2 := by
  have begun := begin_traceless tidy mode command limit
  have sent := begun.trans (send_traceless begun.tidy (c.begin mode command limit).1)
  have settled := sent.trans (settle_traceless sent.tidy (c.begin mode command limit).1
    ((c.begin mode command limit).2.send (c.begin mode command limit).1).1)
  exact settled.trans (traceless_record settled.tidy _)

/-- A call that opened no cursor leaves none open. -/
theorem fail_traceless (tidy : c.Tidy) (call : Call) (e : TransportError) :
    (∃ r, (c.fail call e).1 = .error r) ∧ Traceless c (c.fail call e).2 := by
  have settled := settle_traceless tidy call (.error e : TransportResult Reply)
  exact ⟨⟨_, rfl⟩, settled.trans (traceless_record settled.tidy _)⟩

/-! ## Opening cursors -/

/-- What opening a cursor leaves: there is no trace of it, or a cursor that owns what it opened. -/
def Established (s : Store) (r : Except Response Cursor × Client) : Prop :=
  r.2.Tidy ∧
    ((∃ response, r.1 = .error response) ∧ SameBut [] s r.2.store ∨
      ∃ cur, r.1 = .ok cur ∧ Opened cur.id s r.2.store ∧
        cur.guard.connection.cursors = cur.held)

theorem Established.of_failure {s : Store} {r : Except Response Cursor × Client}
    (same : SameBut [] s c.store) (failed : (∃ response, r.1 = .error response) ∧ Traceless c r.2) :
    Established s r :=
  ⟨failed.2.tidy, .inl ⟨failed.1, same.trans failed.2.table⟩⟩

/-- A guard closes the cursor that was just opened through it. -/
theorem kill_opened {s : Store} {g : Guard Connection} {id : Nat} (numbered : s.Numbered)
    (opened : Opened id s c.store)
    (tracked : g.connection.cursors = if id = 0 then [] else [id]) :
    (g.kill id c.store).1.connection.cursors = [] ∧ SameBut [] s (g.kill id c.store).2 := by
  have before := numbered.next_closed
  unfold Guard.kill
  rcases opened.state with ⟨rfl, closed⟩ | ⟨rfl, -⟩
  · exact ⟨tracked, opened.table.restored (closed.trans before.symm)⟩
  · have positive : s.nextCursor ≠ 0 := Nat.ne_of_gt numbered.positive
    rw [if_neg positive] at tracked
    rw [if_neg (by simpa using positive)]
    refine ⟨Connection.cursors_forget tracked, ?_⟩
    have killed := opened.table.trans (c.store.sameBut_killCursor s.nextCursor)
    refine killed.restored (Eq.trans ?_ before.symm)
    exact Dictionary.get?_erase_self ..

/-- A cursor that came late is closed, and its connection given back. -/
theorem giveUp_established {s : Store} {g : Guard Connection} {id : Nat} (numbered : s.Numbered)
    (tidy : c.Tidy) (opened : Opened id s c.store)
    (tracked : g.connection.cursors = if id = 0 then [] else [id]) (call : Call)
    (e : TransportError) :
    Established s (fail (release { c with store := (g.kill id c.store).2 } call.mode
      (g.kill id c.store).1) call e) := by
  obtain ⟨closed, same⟩ := kill_opened numbered opened tracked
  have released := release_traceless (tidy.withStore (g.kill id c.store).2) closed call.mode
  exact .of_failure (same.trans released.table) (fail_traceless released.tidy call e)

/-- A cursor that has arrived is closed if it is late, and handed over if it is not. -/
theorem handOver_established {s : Store} {g : Guard Connection} {batch : Batch}
    (numbered : s.Numbered) (tidy : c.Tidy) (opened : Opened batch.cursor s c.store)
    (tracked : g.connection.cursors = if batch.cursor = 0 then [] else [batch.cursor]) (call : Call)
    (once : call.patience.decidesOnce c.store) : Established s (c.handOver call g batch) := by
  have once : (call.patience.isLate (call.patience.isLate c.store).2).1 =
      (call.patience.isLate c.store).1 := eq_of_beq once
  have opened : Opened batch.cursor s (onStore call.patience.isLate c).2.store :=
    opened.then_alike (call.patience.alike_isLate c.store)
  have tidy : (onStore call.patience.isLate c).2.Tidy := tidy.withStore _
  have looked : (onStore call.patience.isLate c).1 = (call.patience.isLate c.store).1 := rfl
  rw [handOver_eq, looked]
  unfold handOverBy
  cases late : (call.patience.isLate c.store).1 with
  | true => exact giveUp_established numbered tidy opened tracked call (.timeout 0)
  | false =>
    rw [late] at once
    have kept : (settle (onStore call.patience.isLate c).2 call (.ok batch)).1 = .ok batch :=
      Patience.settle_ok once call.limit batch
    rw [if_neg Bool.false_ne_true, kept]
    have settled := settle_traceless tidy call (.ok batch : TransportResult Batch)
    refine ⟨(traceless_record settled.tidy _).tidy, .inr ⟨_, rfl, ?_, tracked⟩⟩
    exact opened.then_alike (call.patience.alike_settle _ _ _)

/-- Whether the expiry of the deadline is decided once while a cursor is opened: who looks at the
clock when the first batch has arrived finds the same when the call ends. -/
def decidesOnce (c : Client) (mode : Mode) (command : Command) (limit : Option Nat) : Bool :=
  let (call, c) := c.begin mode command limit
  match c.acquire call with
  | (.ok g, c) =>
    match g.call (fun connection s =>
        connection.openCursor call.patience command c.config.batchSize s) c.store with
    | (.ok _, _, store) => call.patience.decidesOnce store
    | _ => true
  | _ => true

/-- **Opening a cursor leaves no trace, or a cursor that owns what was opened.** -/
theorem openCursor_established (numbered : c.store.Numbered) (tidy : c.Tidy) (mode : Mode)
    (command : Command) (limit : Option Nat) (once : c.decidesOnce mode command limit) :
    Established c.store (c.openCursor mode command limit) := by
  have begun := begin_traceless tidy mode command limit
  have read : c.store.Alike (c.begin mode command limit).2.store := c.store.alike_readClock
  unfold openCursor
  unfold decidesOnce at once
  revert begun read once
  obtain ⟨call, c'⟩ := c.begin mode command limit
  intro once begun read
  obtain ⟨tidied, closed, waited⟩ := acquire_tidy begun.tidy call
  dsimp only at once read ⊢
  revert once tidied closed waited
  obtain ⟨e | g, c''⟩ := c'.acquire call
  · intro _ tidied _ waited
    exact .of_failure (read.trans waited).sameBut (fail_traceless tidied call e)
  · intro once tidied closed waited
    have waited := read.trans waited
    have opening := g.begin.connection.openCursor_cases call.patience command c''.config.batchSize
      c''.store
    have idle : g.begin.connection.cursors = [] := closed g rfl
    unfold Guard.call at once ⊢
    dsimp only at once ⊢
    revert once opening
    obtain ⟨e | batch, k, t⟩ := g.begin.connection.openCursor _ command _ c''.store
    · rintro - (⟨_, -, rfl, same⟩ | ⟨_, other, -⟩)
      · have released := release_traceless (tidied.withStore t) (g := g.begin.finish g.begin.connection
          (.error e : TransportResult Batch)) idle mode
        exact .of_failure ((waited.sameBut.trans same).trans released.table)
          (fail_traceless released.tidy call e)
      · cases other
    · rintro once (⟨_, other, -⟩ | ⟨_, same, rfl, opened⟩)
      · cases other
      · cases same
        exact handOver_established numbered (tidied.withStore t) (opened.of_alike waited)
          (Connection.cursors_record idle batch) call once

end

end Client

end DocStore
