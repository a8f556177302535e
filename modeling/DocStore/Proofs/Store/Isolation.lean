import DocStore.Proofs.Store.Network

/-!
# Cursors do not disturb each other

In a network, what is done to a cursor is noticed by those who use it and by nobody else: two runs that
differ in the reads and the closing of one cursor bring the same answers to everything else
(`Network.Besides.step`, `Network.Besides.run_filter`). With the numbers that are given out once, and resets that
close what was opened over their connection, this keeps the cursors of connections apart
(`Network.isolated`).
-/

namespace DocStore

open Store (Near Beside Spares)

/-! ## Connections -/

namespace Connection

variable {c : Nat} {k k' : Connection}

theorem forget_comm (k : Connection) (id c : Nat) :
    (k.forget id).forget c = (k.forget c).forget id := by
  simp only [forget, List.filter_filter, Bool.and_comm]

theorem forget_forget_alike (h : k.forget c = k'.forget c) (id : Nat) :
    (k.forget id).forget c = (k'.forget id).forget c := by
  rw [forget_comm k, forget_comm k', h]

/-- A connection takes a cursor down alike in two runs that differ in another one. -/
theorem forget_record_alike (h : k.forget c = k'.forget c) (batch : Batch) :
    (k.record batch).forget c = (k'.record batch).forget c := by
  have recorded (k : Connection) : (k.record batch).forget c =
      if batch.cursor = c then k.forget c else (k.forget c).record batch := by
    unfold record
    by_cases this : batch.cursor = c
    · rw [if_pos this]
      split
      · rfl
      · simp [forget, this]
    · have there : (k.forget c).cursors.contains batch.cursor = k.cursors.contains batch.cursor := by
        rw [Bool.eq_iff_iff, List.contains_iff_mem, List.contains_iff_mem, mem_forget]
        exact and_iff_left this
      rw [if_neg this, there]
      split
      · rfl
      · simp [forget, this]
  rw [recorded k, recorded k', h]

end Connection

/-- A connection apart from a cursor. -/
def Link.forget (c : Nat) (l : Link) : Link := { l with connection := l.connection.forget c }

namespace Network

/-- A request reads a cursor or closes it. -/
def Request.uses (c : Nat) : Request → Bool
  | .getMore _ cursor _ => cursor == c
  | .look cursor _ => cursor == c
  | .killCursor cursor => cursor == c
  | _ => false

/-- A step reads a cursor or closes it. -/
def Step.uses (c : Nat) (x : Step) : Bool :=
  match x.act with
  | .request _ r => r.uses c
  | _ => false

/-! ## Those who use the cursor -/

section

variable {s t : Store} {c : Nat}

theorem beside_look (k : Connection) (c size : Nat) (s : Store) :
    Beside c s (k.look c size s).2.2 ∧ (k.look c size s).2.1.forget c = k.forget c := by
  have read := (s.near_nextBatch c size).beside
  unfold Connection.look
  revert read
  obtain ⟨e | _ | batch, t⟩ := s.nextBatch c size
  · exact fun read => ⟨read, rfl⟩
  · exact fun read => ⟨read, rfl⟩
  · intro read
    refine ⟨read, ?_⟩
    dsimp only
    split
    · simp [Connection.forget]
    · rfl

/-- What is done to a cursor leaves the store and the connection alike but for that cursor. -/
theorem beside_perform (l : Link) (s : Store) {r : Request} (uses : r.uses c = true) :
    Beside c s (l.perform s r).2.2 ∧ (l.perform s r).2.1.forget c = l.connection.forget c := by
  cases r with
  | getMore deadline cursor size =>
    obtain rfl : cursor = c := beq_iff_eq.1 uses
    show Beside cursor s (l.connection.getMore _ cursor size s).2.2 ∧
      (l.connection.getMore _ cursor size s).2.1.forget cursor = _
    rw [Connection.getMore_eq_look, Connection.arriving]
    have arrived : Beside cursor s (s.delay (l.patience deadline)).2 := s.beside_delay _
    revert arrived
    obtain ⟨e | _, t⟩ := s.delay (l.patience deadline)
    · exact fun arrived => ⟨arrived, rfl⟩
    · intro arrived
      have looked := beside_look l.connection cursor size t
      dsimp only at arrived looked ⊢
      revert looked
      obtain ⟨e | _ | batch, k, u⟩ := l.connection.look cursor size t <;> rintro ⟨read, same⟩
      · exact ⟨arrived.trans read, same⟩
      · exact ⟨(arrived.trans read).trans (u.beside_awaitChange _), same⟩
      · exact ⟨arrived.trans read, same⟩
  | look cursor size =>
    obtain rfl : cursor = c := beq_iff_eq.1 uses
    exact beside_look l.connection cursor size s
  | killCursor cursor =>
    obtain rfl : cursor = c := beq_iff_eq.1 uses
    refine ⟨(s.near_killCursor cursor).beside, ?_⟩
    show ((l.connection.forget cursor).forget cursor) = _
    simp [Connection.forget]
  | _ => cases uses

end

/-! ## Those who do not -/

/-- A call has the same outcome in a store, and over a connection, that differ in a cursor. -/
structure Alike (c : Nat) {α : Type} (x y : α × Connection × Store) : Prop where
  answer : x.1 = y.1
  connection : x.2.1.forget c = y.2.1.forget c
  store : Near c x.2.2 y.2.2

section

variable {s t : Store} {c : Nat} {k k' : Connection}

/-- Calls that do alike once they have arrived do alike. -/
theorem Alike.arriving {α : Type} {f f' : Store → TransportResult α × Connection × Store}
    (h : k.forget c = k'.forget c) (near : Near c s t) (p : Patience)
    (alike : ∀ s t, Near c s t → Alike c (f s) (f' t)) :
    Alike c (k.arriving p f s) (k'.arriving p f' t) := by
  have arrived := Store.spares_delay (c := c) p s t near
  unfold Connection.arriving
  dsimp only at arrived
  revert arrived
  obtain ⟨result, s⟩ := s.delay p
  obtain ⟨_, t⟩ := t.delay p
  rintro ⟨⟨⟩, near⟩
  cases result with
  | error e => exact ⟨rfl, h, near⟩
  | ok => exact alike s t near

theorem alike_execute (h : k.forget c = k'.forget c) (near : Near c s t) (p : Patience)
    (command : Command) : Alike c (k.execute p command s) (k'.execute p command t) := by
  rw [Connection.execute_eq, Connection.execute_eq]
  refine .arriving h near p fun s t near => ?_
  obtain ⟨same, left⟩ := (Store.blind_execute command).spares s t near
  exact ⟨same, h, left⟩

theorem alike_openCursor (h : k.forget c = k'.forget c) (near : Near c s t) (p : Patience)
    (command : Command) (size : Nat) :
    Alike c (k.openCursor p command size s) (k'.openCursor p command size t) := by
  rw [Connection.openCursor_eq, Connection.openCursor_eq]
  refine .arriving h near p fun s t near => ?_
  have opened := Store.spares_openCursor (c := c) command size s t near
  dsimp only at opened ⊢
  revert opened
  obtain ⟨result, s⟩ := s.openCursor command size
  obtain ⟨_, t⟩ := t.openCursor command size
  rintro ⟨⟨⟩, near⟩
  cases result with
  | error e => exact ⟨rfl, h, near⟩
  | ok batch => exact ⟨rfl, Connection.forget_record_alike h batch, near⟩

theorem alike_look (h : k.forget c = k'.forget c) (near : Near c s t) {id : Nat} (other : id ≠ c)
    (size : Nat) : Alike c (k.look id size s) (k'.look id size t) := by
  have read := Store.spares_nextBatch other size s t near
  unfold Connection.look
  dsimp only at read
  revert read
  obtain ⟨result, s⟩ := s.nextBatch id size
  obtain ⟨_, t⟩ := t.nextBatch id size
  rintro ⟨⟨⟩, near⟩
  obtain e | _ | batch := result
  · exact ⟨rfl, h, near⟩
  · exact ⟨rfl, h, near⟩
  · refine ⟨rfl, ?_, near⟩
    dsimp only
    split
    · exact Connection.forget_forget_alike h id
    · exact h

theorem alike_getMore (h : k.forget c = k'.forget c) (near : Near c s t) (p : Patience) {id : Nat}
    (other : id ≠ c) (size : Nat) : Alike c (k.getMore p id size s) (k'.getMore p id size t) := by
  rw [Connection.getMore_eq_look, Connection.getMore_eq_look]
  refine .arriving h near p fun s t near => ?_
  have looked := alike_look h near other size
  revert looked
  obtain ⟨result, k, s⟩ := k.look id size s
  obtain ⟨_, k', t⟩ := k'.look id size t
  rintro ⟨⟨⟩, h, near⟩
  obtain e | _ | batch := result
  · exact ⟨rfl, h, near⟩
  · obtain ⟨same, left⟩ := Store.spares_awaitChange (c := c) p s t near
    exact ⟨congrArg Except.error same, h, left⟩
  · exact ⟨rfl, h, near⟩

theorem alike_reset (h : k.forget c = k'.forget c) (near : Near c s t) :
    Near c (k.reset s).2 (k'.reset t).2 := by
  obtain ⟨cursors, rfl, alike⟩ := near
  obtain ⟨closed, same, left⟩ := s.killCursors_frame k.cursors
  obtain ⟨closed', same', left'⟩ := (s.holding cursors).killCursors_frame k'.cursors
  refine ⟨closed', ?_, fun id other => ?_⟩
  · rw [Connection.reset, Connection.reset, same, same']
    rfl
  · have tracked : id ∈ k'.cursors ↔ id ∈ k.cursors := by
      have mine : id ∈ (k.forget c).cursors ↔ id ∈ k.cursors ∧ id ≠ c := Connection.mem_forget
      rw [h, Connection.mem_forget] at mine
      constructor
      · exact fun mem => (mine.1 ⟨mem, other⟩).1
      · exact fun mem => (mine.2 ⟨mem, other⟩).1
    have table : (k.reset s).2.cursors.get? id = closed.get? id := by
      rw [Connection.reset, same]
      rfl
    rw [table, left, left']
    simp only [tracked]
    split
    · rfl
    · exact alike id other

/-- **A request that does not use a cursor is not disturbed by those who do.** -/
theorem alike_perform {l l' : Link} (mode : l.mode = l'.mode)
    (h : l.connection.forget c = l'.connection.forget c) (near : Near c s t) {r : Request}
    (unused : r.uses c = false) : Alike c (l.perform s r) (l'.perform t r) := by
  have patience : l'.patience = l.patience := by
    unfold Link.patience
    rw [mode]
  cases r with
  | execute deadline command =>
    obtain ⟨answer, connection, store⟩ := alike_execute h near (l.patience deadline) command
    rw [Link.perform, Link.perform, patience]
    exact ⟨congrArg Answer.replied answer, connection, store⟩
  | openCursor deadline command size =>
    obtain ⟨answer, connection, store⟩ := alike_openCursor h near (l.patience deadline) command size
    rw [Link.perform, Link.perform, patience]
    exact ⟨congrArg Answer.opened answer, connection, store⟩
  | getMore deadline cursor size =>
    have other : cursor ≠ c := by simpa [Request.uses] using unused
    obtain ⟨answer, connection, store⟩ := alike_getMore h near (l.patience deadline) other size
    rw [Link.perform, Link.perform, patience]
    exact ⟨congrArg Answer.read answer, connection, store⟩
  | look cursor size =>
    have other : cursor ≠ c := by simpa [Request.uses] using unused
    obtain ⟨answer, connection, store⟩ := alike_look h near other size
    exact ⟨congrArg Answer.looked answer, connection, store⟩
  | killCursor cursor =>
    exact ⟨rfl, Connection.forget_forget_alike h cursor, near.killCursor cursor⟩
  | reset => exact ⟨rfl, rfl, alike_reset h near⟩

end

/-! ## Runs -/

/-- Networks that differ in a cursor and in their clocks, if at all. -/
structure Besides (c : Nat) (n m : Network) : Prop where
  store : Beside c n.store m.store
  links : n.links.map (Link.forget c) = m.links.map (Link.forget c)

section

variable {n m o : Network} {c : Nat}

theorem Besides.refl (n : Network) : Besides c n n := ⟨.refl _, rfl⟩

theorem Besides.symm (h : Besides c n m) : Besides c m n := ⟨h.store.symm, h.links.symm⟩

theorem Besides.trans (h : Besides c n m) (h' : Besides c m o) : Besides c n o :=
  ⟨h.store.trans h'.store, h.links.trans h'.links⟩

/-- A step that uses a cursor leaves the network alike but for that cursor. -/
theorem besides_step (n : Network) {x : Step} (uses : x.uses c = true) : Besides c n (n.step x).2 := by
  obtain ⟨clock, act⟩ := x
  cases act with
  | request i r =>
    have begun : Beside c n.store (n.store.atTime clock) := fun _ => .refl _
    unfold step
    dsimp only
    cases here : n.links[i]? with
    | none => exact ⟨begun, rfl⟩
    | some l =>
      obtain ⟨store, connection⟩ := beside_perform l (n.store.atTime clock) uses
      refine ⟨begun.trans store, ?_⟩
      show _ = (n.links.set i { l with connection := (l.perform _ r).2.1 }).map (Link.forget c)
      have same : Link.forget c { l with connection := (l.perform (n.store.atTime clock) r).2.1 } =
          l.forget c := congrArg (Link.mk l.mode) connection
      obtain ⟨inside, rfl⟩ := List.getElem?_eq_some_iff.1 here
      have there : i < (n.links.map (Link.forget c)).length := by rwa [List.length_map]
      rw [List.map_set, same, ← List.getElem_map (Link.forget c) (h := there), List.set_getElem_self]
  | _ => cases uses

/-- A step that does not use it brings the same. -/
theorem Besides.step (h : Besides c n m) {x : Step} (unused : x.uses c = false) :
    (n.step x).1 = (m.step x).1 ∧ Besides c (n.step x).2 (m.step x).2 := by
  obtain ⟨clock, act⟩ := x
  have near : Near c (n.store.atTime clock) (m.store.atTime clock) := h.store clock
  unfold Network.step
  cases act with
  | connect mode =>
    have connected := Store.spares_connect (c := c) mode _ _ near
    dsimp only at connected ⊢
    revert connected
    obtain ⟨result, s⟩ := (n.store.atTime clock).connect mode
    obtain ⟨_, t⟩ := (m.store.atTime clock).connect mode
    rintro ⟨⟨⟩, near⟩
    cases result with
    | error e => exact ⟨rfl, near.beside, h.links⟩
    | ok k =>
      refine ⟨rfl, near.beside, ?_⟩
      dsimp only
      rw [List.map_append, List.map_append, h.links]
  | request i r =>
    have links : (n.links[i]?).map (Link.forget c) = (m.links[i]?).map (Link.forget c) := by
      rw [← List.getElem?_map, ← List.getElem?_map, h.links]
    dsimp only
    revert links
    cases n.links[i]? with
    | none =>
      cases m.links[i]? with
      | none => exact fun _ => ⟨rfl, near.beside, h.links⟩
      | some l' => exact fun links => nomatch links
    | some l =>
      cases m.links[i]? with
      | none => exact fun links => nomatch links
      | some l' =>
        intro links
        obtain ⟨mode, connection⟩ := Link.mk.inj (Option.some.inj links)
        obtain ⟨answer, left, store⟩ := alike_perform mode connection near unused
        refine ⟨answer, store.beside, ?_⟩
        have same : Link.forget c ⟨l.mode, (l.perform (n.store.atTime clock) r).2.1⟩ =
            Link.forget c ⟨l'.mode, (l'.perform (m.store.atTime clock) r).2.1⟩ := by
          show Link.mk l.mode ((l.perform _ r).2.1.forget c) =
            Link.mk l'.mode ((l'.perform _ r).2.1.forget c)
          rw [mode, left]
        show (n.links.set i ⟨l.mode, _⟩).map (Link.forget c) =
          (m.links.set i ⟨l'.mode, _⟩).map (Link.forget c)
        rw [List.map_set, List.map_set, h.links, same]
  | adjust a =>
    exact ⟨rfl, ((Store.blind_adjust a).spares _ _ near).2.beside, h.links⟩

/-- **Without the reads and the closing of a cursor, a run brings the same to everything else.** -/
theorem Besides.run_filter (h : Besides c n m) (steps : List Step) :
    (n.run steps).1.filter (fun x => !x.1.uses c) = (m.run (steps.filter (!·.uses c))).1 ∧
      Besides c (n.run steps).2 (m.run (steps.filter (!·.uses c))).2 := by
  induction steps generalizing n m with
  | nil => exact ⟨rfl, h⟩
  | cons x steps ih =>
    cases uses : x.uses c with
    | true =>
      obtain ⟨trace, last⟩ := ih ((besides_step n uses).symm.trans h)
      simp only [run, List.filter_cons, uses, Bool.not_true, Bool.false_eq_true, if_false]
      exact ⟨trace, last⟩
    | false =>
      obtain ⟨answer, next⟩ := h.step uses
      obtain ⟨trace, last⟩ := ih next
      simp only [run, List.filter_cons, uses, Bool.not_false, if_true]
      exact ⟨by rw [answer, trace], last⟩

end

/-! ## Isolation -/

/-- **What keeps the cursors of connections apart** in a run. -/
structure Isolated (n : Network) (steps : List Step) : Prop where
  /-- The numbers of cursors are not zero, and each is larger than those before. -/
  numbers : (openings (n.run steps).1).Pairwise (fun a b => a.2 < b.2) ∧
    ∀ o ∈ openings (n.run steps).1, 0 < o.2
  /-- What is open has been opened over a connection. -/
  opener : ∀ id, ((n.run steps).2.store.cursors.get? id).isSome →
    ∃ i, (i, id) ∈ openings (n.run steps).1
  /-- A number does not come back. -/
  closed_for_good : ∀ o ∈ openings (n.run steps).1,
    (n.run steps).2.store.cursors.get? o.2 = none → ∀ later,
      (n.run (steps ++ later)).2.store.cursors.get? o.2 = none
  /-- A reset closes the cursors that were opened over its connection, and no others. -/
  reset : ∀ i clock id,
    ((n.run steps).2.step ⟨clock, .request i .reset⟩).2.store.cursors.get? id =
      if (i, id) ∈ openings (n.run steps).1 then none
      else (n.run steps).2.store.cursors.get? id
  /-- Runs that differ in the reads and the closing of a cursor bring the same to everything else, and
  leave the other cursors at the same places. -/
  undisturbed : ∀ c steps', steps.filter (!·.uses c) = steps'.filter (!·.uses c) →
    (n.run steps).1.filter (fun x => !x.1.uses c) = (n.run steps').1.filter (fun x => !x.1.uses c) ∧
      ∀ id, id ≠ c → (n.run steps).2.store.cursors.get? id = (n.run steps').2.store.cursors.get? id

/-- **Connections isolate their cursors.** -/
theorem isolated (s : Store) (steps : List Step) : Isolated (start s) steps := by
  obtain ⟨kept, -⟩ := (kept_start s).run steps
  rw [List.nil_append] at kept
  refine ⟨⟨kept.ascending, fun o mem => (kept.given o mem).1⟩, kept.opener, ?_, kept.get?_reset, ?_⟩
  · intro o mem closed later
    rw [run_append]
    exact (kept.run later).2.closed o.2 (kept.given o mem).2.1 closed
  · intro c steps' same
    have begun : Besides c (start s) (start s) := .refl _
    obtain ⟨trace, left⟩ := begun.run_filter steps
    obtain ⟨trace', left'⟩ := begun.run_filter steps'
    rw [same] at trace left
    refine ⟨trace.trans trace'.symm, fun id other => ?_⟩
    have near := (left.trans left'.symm).store {}
    exact (near.get? other).symm

/-- A cursor is read over a connection that did not open it, and whose reset leaves it open. -/
example :
    let docs : List Json := [.obj [("_id", .int 1)], .obj [("_id", .int 2)], .obj [("_id", .int 3)]]
    let find : Request := .openCursor none (.find "c" { filter := .obj [] }) 1
    let acts : List Act := [.connect .sync, .connect .async, .request 0 find, .request 1 find,
      .request 1 (.getMore none 1 1), .request 1 .reset]
    let (trace, n) := (start { collections := [("c", docs)] }).run (acts.map (Step.mk {}))
    openings trace = [(0, 1), (1, 2)] ∧ n.store.cursors.map (·.1) = [1] := by
  decide +kernel

end Network

end DocStore
