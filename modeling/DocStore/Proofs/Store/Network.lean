import DocStore.Proofs.Store.Beside
import DocStore.Proofs.Store.ConnectionCalls

/-!
# Connections that share a store

Any number of connections, of both kinds, work on one store in turn (`Network`). Each connection takes
down the cursors opened over it, and its list goes stale when a cursor is read to its end or closed over
another connection. Numbers are given out once (`Ages`), so that a stale number never means another
cursor (`Network.Kept`): a reset closes the cursors that were opened over the connection and no others
(`Network.Kept.get?_reset`).
-/

namespace DocStore

open Store (SameBut Opened)

namespace Connection

/-- One look of a read at its cursor; where there is nothing new, the read waits and looks again. -/
def look (k : Connection) (cursor size : Nat) (s : Store) :
    TransportResult (Option Batch) × Connection × Store :=
  match s.nextBatch cursor size with
  | (.ok (some batch), s) => (.ok (some batch), if batch.isLast then k.forget cursor else k, s)
  | (result, s) => (result, k, s)

/-- A call over a connection arrives after the latency of the store, or not in time. -/
def arriving {α : Type} (k : Connection) (p : Patience)
    (f : Store → TransportResult α × Connection × Store) (s : Store) :
    TransportResult α × Connection × Store :=
  match s.delay p with
  | (.error e, s) => (.error e, k, s)
  | (.ok (), s) => f s

section

variable (k : Connection) (p : Patience)

theorem execute_eq (command : Command) (s : Store) : k.execute p command s =
    k.arriving p (fun s => ((s.execute command).1, k, (s.execute command).2)) s := rfl

theorem openCursor_eq (command : Command) (size : Nat) (s : Store) : k.openCursor p command size s =
    k.arriving p (fun s => match s.openCursor command size with
      | (.ok batch, s) => (.ok batch, k.record batch, s)
      | (.error e, s) => (.error e, k, s)) s := rfl

/-- A read looks, and has waited in vain if there was nothing new. -/
theorem getMore_eq_look (cursor size : Nat) (s : Store) : k.getMore p cursor size s =
    k.arriving p (fun s => match k.look cursor size s with
      | (.error e, k, s) => (.error e, k, s)
      | (.ok none, k, s) => (.error (s.awaitChange p).1, k, (s.awaitChange p).2)
      | (.ok (some batch), k, s) => (.ok batch, k, s)) s := by
  unfold getMore arriving look
  obtain ⟨e | _, s⟩ := s.delay p
  · rfl
  · dsimp only
    obtain ⟨e | _ | batch, s⟩ := s.nextBatch cursor size <;> rfl

end

end Connection

/-! ## Networks -/

/-- A connection of one of the two kinds. -/
structure Link where
  mode : Mode
  connection : Connection := {}

/-- A store and the connections to it, in the order in which they were opened. -/
structure Network where
  store : Store
  links : List Link := []

namespace Network

/-- What is asked over a connection. A blocked caller has an instant as a deadline, a suspended one a
number of milliseconds. -/
inductive Request where
  | execute (deadline : Option Nat) (command : Command)
  | openCursor (deadline : Option Nat) (command : Command) (size : Nat)
  | getMore (deadline : Option Nat) (cursor size : Nat)
  /-- One look of a read that waits. -/
  | look (cursor size : Nat)
  | killCursor (cursor : Nat)
  | reset

/-- What a step brings. -/
inductive Answer where
  | connected (result : TransportResult Unit)
  | replied (result : TransportResult Reply)
  | opened (result : TransportResult Batch)
  | read (result : TransportResult Batch)
  | looked (result : TransportResult (Option Batch))
  | done

/-- What happens in a network. -/
inductive Act where
  | connect (mode : Mode)
  | request (link : Nat) (r : Request)
  | adjust (a : Store.Adjustment)

/-- Something happens, at a time of its own. -/
structure Step where
  clock : Clock
  act : Act

end Network

namespace Link

open Network (Request Answer)

/-- How long a caller of a connection waits. -/
def patience (l : Link) (deadline : Option Nat) : Patience :=
  match l.mode with
  | .sync => .blocked deadline
  | .async => .suspended deadline

/-- A request over a connection. -/
def perform (l : Link) (s : Store) : Request → Answer × Connection × Store
  | .execute deadline command =>
    let (result, k, s) := l.connection.execute (l.patience deadline) command s
    (.replied result, k, s)
  | .openCursor deadline command size =>
    let (result, k, s) := l.connection.openCursor (l.patience deadline) command size s
    (.opened result, k, s)
  | .getMore deadline cursor size =>
    let (result, k, s) := l.connection.getMore (l.patience deadline) cursor size s
    (.read result, k, s)
  | .look cursor size =>
    let (result, k, s) := l.connection.look cursor size s
    (.looked result, k, s)
  | .killCursor cursor => (.done, l.connection.killCursor cursor s)
  | .reset => (.done, l.connection.reset s)

end Link

namespace Network

/-- A step of a network. -/
def step (n : Network) (x : Step) : Answer × Network :=
  let s := n.store.atTime x.clock
  match x.act with
  | .connect mode =>
    match s.connect mode with
    | (.ok k, s) => (.connected (.ok ()), ⟨s, n.links ++ [⟨mode, k⟩]⟩)
    | (.error e, s) => (.connected (.error e), ⟨s, n.links⟩)
  | .request i r =>
    match n.links[i]? with
    | none => (.done, ⟨s, n.links⟩)
    | some l =>
      let (answer, k, s) := l.perform s r
      (answer, ⟨s, n.links.set i { l with connection := k }⟩)
  | .adjust a => (.done, ⟨s.adjust a, n.links⟩)

/-- The steps of a run, each with what it brought, and the network after them. -/
def run (n : Network) : List Step → List (Step × Answer) × Network
  | [] => ([], n)
  | x :: later =>
    ((x, (n.step x).1) :: ((n.step x).2.run later).1, ((n.step x).2.run later).2)

/-- The connection and the number of a cursor that a step opened, unless its first batch was its
last. -/
def opening? : Step × Answer → Option (Nat × Nat)
  | (⟨_, .request i _⟩, .opened (.ok batch)) => if batch.isLast then none else some (i, batch.cursor)
  | _ => none

/-- The cursors that were opened, each as the connection and the number, in order. -/
def openings (trace : List (Step × Answer)) : List (Nat × Nat) := trace.filterMap opening?

theorem run_append (n : Network) (steps later : List Step) :
    n.run (steps ++ later) = ((n.run steps).1 ++ ((n.run steps).2.run later).1,
      ((n.run steps).2.run later).2) := by
  induction steps generalizing n with
  | nil => rfl
  | cons x steps ih =>
    rw [List.cons_append, run, run, ih]
    rfl

end Network

/-! ## What a call leaves -/

/-- Over a connection, no cursor was opened, and those that the connection no longer takes down are
closed. -/
structure Narrows (k : Connection) (s : Store) (k' : Connection) (t : Store) : Prop where
  opened : ∀ id, (t.cursors.get? id).isSome → (s.cursors.get? id).isSome
  next : s.nextCursor ≤ t.nextCursor
  tracked : k'.cursors ⊆ k.cursors
  dropped : ∀ id ∈ k.cursors, id ∉ k'.cursors → t.cursors.get? id = none

section

variable {k k' k'' : Connection} {s t u : Store} {id : Nat}

theorem Narrows.of_sameBut (h : SameBut [] s t) : Narrows k s k t where
  opened id opened := by rwa [h.others id List.not_mem_nil] at opened
  next := h.next
  tracked _ mem := mem
  dropped id mem gone := absurd mem gone

theorem Narrows.trans (h : Narrows k s k' t) (h' : Narrows k' t k'' u) : Narrows k s k'' u where
  opened id opened := h.opened id (h'.opened id opened)
  next := Nat.le_trans h.next h'.next
  tracked _ mem := h.tracked (h'.tracked mem)
  dropped id mem gone := by
    by_cases still : id ∈ k'.cursors
    · exact h'.dropped id still gone
    · have closed := h.dropped id mem still
      cases opened : u.cursors.get? id with
      | none => rfl
      | some state =>
        have before := h'.opened id (by rw [opened]; rfl)
        rw [closed] at before
        cases before

theorem Connection.mem_forget {cursor : Nat} :
    id ∈ (k.forget cursor).cursors ↔ id ∈ k.cursors ∧ id ≠ cursor := by
  simp [forget]

/-- A cursor is closed, and no other one is forgotten. -/
theorem Narrows.of_closed (table : SameBut [id] s t) (closed : t.cursors.get? id = none)
    (tracked : k'.cursors ⊆ k.cursors) (kept : ∀ other ∈ k.cursors, other ≠ id → other ∈ k'.cursors) :
    Narrows k s k' t where
  opened other opened := by
    by_cases this : other = id
    · rw [this, closed] at opened
      cases opened
    · rwa [table.others other fun mem => this (List.mem_singleton.1 mem)] at opened
  next := table.next
  tracked := tracked
  dropped other mem gone := by
    have this : other = id := by
      by_contra different
      exact gone (kept other mem different)
    rw [this, closed]

theorem Narrows.of_forget (table : SameBut [id] s t) (closed : t.cursors.get? id = none) :
    Narrows k s (k.forget id) t :=
  .of_closed table closed (fun _ mem => (Connection.mem_forget.1 mem).1)
    fun _ mem different => Connection.mem_forget.2 ⟨mem, different⟩

/-- A cursor that is open is still open, and nothing is forgotten. -/
theorem Narrows.of_open (table : SameBut [id] s t) (opened : (s.cursors.get? id).isSome) :
    Narrows k s k t where
  opened other still := by
    by_cases this : other = id
    · rwa [this]
    · rwa [table.others other fun mem => this (List.mem_singleton.1 mem)] at still
  next := table.next
  tracked _ mem := mem
  dropped other mem gone := absurd mem gone

theorem narrows_look (k : Connection) (zero : s.cursors.get? 0 = none) (id size : Nat) :
    Narrows k s (k.look id size s).2.1 (k.look id size s).2.2 := by
  unfold Connection.look
  by_cases opened : (s.cursors.get? id).isSome
  · have positive : id ≠ 0 := by
      rintro rfl
      rw [zero] at opened
      cases opened
    have table := s.sameBut_nextBatch id size
    have read := Store.nextBatch_of_open opened size
    revert table read
    obtain ⟨e | _ | batch, t⟩ := s.nextBatch id size
    · exact fun table _ => .of_open table opened
    · exact fun table _ => .of_open table opened
    · rintro table (⟨docs, ended, closed⟩ | ⟨goesOn, -⟩)
      · cases ended
        exact .of_forget table closed
      · have same : batch.cursor = id := goesOn batch rfl
        have more : batch.isLast = false := by
          rw [Batch.isLast, same]
          exact beq_false_of_ne positive
        dsimp only
        rw [more]
        exact .of_open table opened
  · have closed : s.cursors.get? id = none := by simpa using opened
    rw [Store.nextBatch_of_closed closed]
    exact .of_sameBut (.refl s)

theorem narrows_getMore (k : Connection) (p : Patience) (zero : s.cursors.get? 0 = none)
    (id size : Nat) :
    Narrows k s (k.getMore p id size s).2.1 (k.getMore p id size s).2.2 := by
  rw [Connection.getMore_eq_look, Connection.arriving]
  have arrived := (s.alike_delay p).sameBut
  revert arrived
  obtain ⟨e | _, t⟩ := s.delay p
  · exact fun arrived => .of_sameBut arrived
  · intro arrived
    have zero : t.cursors.get? 0 = none := by rw [arrived.others 0 List.not_mem_nil, zero]
    have looked := (Narrows.of_sameBut (k := k) arrived).trans (narrows_look k zero id size)
    dsimp only at looked ⊢
    revert looked
    obtain ⟨e | _ | batch, k', u⟩ := k.look id size t
    · exact fun looked => looked
    · exact fun looked => looked.trans (.of_sameBut (u.alike_awaitChange p).sameBut)
    · exact fun looked => looked

theorem Store.killCursors_frame (ids : List Nat) (s : Store) :
    ∃ cursors, ids.foldl Store.killCursor s = s.holding cursors ∧
      ∀ id, cursors.get? id = if id ∈ ids then none else s.cursors.get? id := by
  induction ids generalizing s with
  | nil => exact ⟨s.cursors, rfl, fun id => by simp⟩
  | cons c ids ih =>
    obtain ⟨cursors, same, left⟩ := ih (s.killCursor c)
    refine ⟨cursors, same, fun id => ?_⟩
    rw [left]
    by_cases later : id ∈ ids
    · simp [later]
    · by_cases this : id = c
      · subst this
        simp [later, Store.killCursor, Dictionary.get?_erase_self]
      · simp [later, this, Store.killCursor, Dictionary.get?_erase_of_ne this]

/-- A reset closes what the connection has taken down. -/
theorem Connection.get?_reset (k : Connection) (s : Store) (id : Nat) :
    (k.reset s).2.cursors.get? id = if id ∈ k.cursors then none else s.cursors.get? id := by
  obtain ⟨cursors, same, left⟩ := s.killCursors_frame k.cursors
  rw [reset, same]
  exact left id

theorem narrows_reset (k : Connection) (s : Store) : Narrows k s (k.reset s).1 (k.reset s).2 where
  opened id opened := by
    rw [Connection.get?_reset] at opened
    split at opened
    · cases opened
    · exact opened
  next := by
    obtain ⟨_, same, -⟩ := s.killCursors_frame k.cursors
    rw [Connection.reset, same]
    exact Nat.le_refl _
  tracked := List.nil_subset _
  dropped id mem _ := by rw [Connection.get?_reset, if_pos mem]

end

namespace Network

/-- **What a request leaves**: it has opened a cursor under the next number, or it has opened none. -/
theorem perform_cases (l : Link) {s : Store} (numbered : s.Numbered)
    (zero : s.cursors.get? 0 = none) (r : Request) :
    (∃ batch, (l.perform s r).1 = .opened (.ok batch) ∧ batch.cursor = s.nextCursor ∧
        batch.isLast = false ∧ (l.perform s r).2.1 = l.connection.record batch ∧
        Opened batch.cursor s (l.perform s r).2.2) ∨
      (∀ batch, (l.perform s r).1 = .opened (.ok batch) → batch.isLast = true) ∧
        Narrows l.connection s (l.perform s r).2.1 (l.perform s r).2.2 := by
  cases r with
  | execute deadline command =>
    obtain ⟨same, table⟩ := l.connection.execute_traceless (l.patience deadline) command s
    refine .inr ⟨by rintro batch ⟨⟩, ?_⟩
    show Narrows _ s (l.connection.execute _ command s).2.1 _
    rw [same]
    exact .of_sameBut table
  | openCursor deadline command size =>
    have result {batch : Batch} (h : (l.perform s (.openCursor deadline command size)).1 =
        .opened (.ok batch)) :
        (l.connection.openCursor (l.patience deadline) command size s).1 = .ok batch :=
      Answer.opened.inj h
    rcases l.connection.openCursor_cases (l.patience deadline) command size s with
      ⟨e, answer, same, table⟩ | ⟨batch, answer, same, opened⟩
    · refine .inr ⟨fun batch equal => ?_, ?_⟩
      · cases answer.symm.trans (result equal)
      · show Narrows _ s (l.connection.openCursor _ command size s).2.1 _
        rw [same]
        exact .of_sameBut table
    · rcases opened.state with ⟨none, closed⟩ | ⟨next, -⟩
      · have last : batch.isLast = true := beq_iff_eq.2 none
        refine .inr ⟨fun other equal => ?_, ?_⟩
        · cases answer.symm.trans (result equal)
          exact last
        · have unrecorded : l.connection.record batch = l.connection := by
            rw [Connection.record, last]
            rfl
          show Narrows _ s (l.connection.openCursor _ command size s).2.1 _
          rw [same, unrecorded]
          exact .of_closed opened.table closed (fun _ mem => mem) fun _ mem _ => mem
      · have more : batch.isLast = false := by
          rw [Batch.isLast, next]
          exact beq_false_of_ne (Nat.ne_of_gt numbered.positive)
        exact .inl ⟨batch, congrArg Answer.opened answer, next, more, same, opened⟩
  | getMore deadline cursor size => exact .inr ⟨by rintro batch ⟨⟩, narrows_getMore _ _ zero cursor size⟩
  | look cursor size => exact .inr ⟨by rintro batch ⟨⟩, narrows_look _ zero cursor size⟩
  | killCursor cursor =>
    exact .inr ⟨by rintro batch ⟨⟩, .of_forget (s.sameBut_killCursor cursor) (Dictionary.get?_erase_self ..)⟩
  | reset => exact .inr ⟨by rintro batch ⟨⟩, narrows_reset l.connection s⟩

/-- Numbers are given out once: no old cursor is opened again. -/
structure Ages (s t : Store) : Prop where
  next : s.nextCursor ≤ t.nextCursor
  closed : ∀ id < s.nextCursor, s.cursors.get? id = none → t.cursors.get? id = none

section

variable {s t u : Store}

theorem Ages.trans (h : Ages s t) (h' : Ages t u) : Ages s u where
  next := Nat.le_trans h.next h'.next
  closed id old closed := h'.closed id (Nat.lt_of_lt_of_le old h.next) (h.closed id old closed)

theorem Ages.of_table (same : ∀ id, t.cursors.get? id = s.cursors.get? id)
    (next : s.nextCursor ≤ t.nextCursor) : Ages s t :=
  ⟨next, fun id _ closed => (same id).trans closed⟩

theorem Ages.of_narrows {k k' : Connection} (h : Narrows k s k' t) : Ages s t where
  next := h.next
  closed id _ closed := by
    cases found : t.cursors.get? id with
    | none => rfl
    | some state =>
      have before := h.opened id (by rw [found]; rfl)
      rw [closed] at before
      cases before

theorem Ages.of_opened {id : Nat} (h : Opened id s t) : Ages s t where
  next := h.table.next
  closed other old closed := by
    rw [h.table.others other fun mem => Nat.ne_of_lt old (List.mem_singleton.1 mem), closed]

end

/-! ## Who has opened what -/

/-- The state of a network in which these cursors were opened, each as the connection and the number:
numbers go up, every open cursor has been opened over a connection, and each connection has taken down
those of its cursors that are still open. -/
structure Kept (n : Network) (opened : List (Nat × Nat)) : Prop where
  numbered : n.store.Numbered
  ascending : opened.Pairwise fun a b => a.2 < b.2
  given : ∀ o ∈ opened, 0 < o.2 ∧ o.2 < n.store.nextCursor ∧ o.1 < n.links.length
  opener : ∀ id, (n.store.cursors.get? id).isSome → ∃ i, (i, id) ∈ opened
  tracked : ∀ i l, n.links[i]? = some l → ∀ id ∈ l.connection.cursors, (i, id) ∈ opened
  open_tracked : ∀ i l, n.links[i]? = some l → ∀ id, (i, id) ∈ opened →
    (n.store.cursors.get? id).isSome → id ∈ l.connection.cursors

theorem getElem?_set_cases {links : List Link} {i j : Nat} {l l' : Link}
    (there : (links.set i l)[j]? = some l') : i = j ∧ l' = l ∨ i ≠ j ∧ links[j]? = some l' := by
  rw [List.getElem?_set] at there
  split at there
  · rename_i same
    split at there
    · exact .inl ⟨same, (Option.some.inj there).symm⟩
    · cases there
  · rename_i different
    exact .inr ⟨different, there⟩

section

variable {n : Network} {opened : List (Nat × Nat)}

theorem Kept.zero (h : n.Kept opened) : n.store.cursors.get? 0 = none := by
  cases found : n.store.cursors.get? 0 with
  | none => rfl
  | some state =>
    obtain ⟨i, mem⟩ := h.opener 0 (by rw [found]; rfl)
    have positive := (h.given _ mem).1
    omega

/-- Nothing is opened over a connection. -/
theorem Kept.narrows (h : n.Kept opened) {i : Nat} {l : Link} (here : n.links[i]? = some l)
    {k : Connection} {t : Store} (narrows : Narrows l.connection n.store k t) :
    Kept ⟨t, n.links.set i { l with connection := k }⟩ opened where
  numbered :=
    ⟨Nat.lt_of_lt_of_le h.numbered.positive narrows.next, fun id still =>
      Nat.lt_of_lt_of_le (h.numbered.known id (narrows.opened id still)) narrows.next⟩
  ascending := h.ascending
  given o mem := by
    obtain ⟨positive, old, link⟩ := h.given o mem
    rw [List.length_set]
    exact ⟨positive, Nat.lt_of_lt_of_le old narrows.next, link⟩
  opener id still := h.opener id (narrows.opened id still)
  tracked j l' there id mem := by
    rcases getElem?_set_cases there with ⟨rfl, rfl⟩ | ⟨-, there⟩
    · exact h.tracked i l here id (narrows.tracked mem)
    · exact h.tracked j l' there id mem
  open_tracked j l' there id mem still := by
    have before := narrows.opened id still
    rcases getElem?_set_cases there with ⟨rfl, rfl⟩ | ⟨-, there⟩
    · by_contra gone
      have closed := narrows.dropped id (h.open_tracked i l here id mem before) gone
      rw [closed] at still
      cases still
    · exact h.open_tracked j l' there id mem before

/-- A cursor is opened over a connection. -/
theorem Kept.opens (h : n.Kept opened) {i : Nat} {l : Link} (here : n.links[i]? = some l)
    {batch : Batch} {t : Store} (next : batch.cursor = n.store.nextCursor)
    (more : batch.isLast = false) (entered : Opened batch.cursor n.store t) :
    Kept ⟨t, n.links.set i { l with connection := l.connection.record batch }⟩
      (opened ++ [(i, batch.cursor)]) := by
  have records (id : Nat) : id ∈ (l.connection.record batch).cursors ↔
      id ∈ l.connection.cursors ∨ id = batch.cursor := by
    rw [Connection.record, more, Bool.false_or]
    split
    · rename_i there
      have there : batch.cursor ∈ l.connection.cursors := by simpa using there
      constructor
      · exact .inl
      · rintro (mem | rfl)
        · exact mem
        · exact there
    · simp
  have others {id : Nat} (different : id ≠ batch.cursor) :
      t.cursors.get? id = n.store.cursors.get? id :=
    entered.table.others id fun mem => different (next ▸ List.mem_singleton.1 mem)
  have length : i < n.links.length := (List.getElem?_eq_some_iff.1 here).1
  refine ⟨entered.numbered h.numbered, ?_, ?_, ?_, ?_, ?_⟩
  · refine List.pairwise_append.2 ⟨h.ascending, List.pairwise_singleton _ _, fun o mem o' mem' => ?_⟩
    rw [List.mem_singleton.1 mem', next]
    exact (h.given o mem).2.1
  · intro o mem
    show 0 < o.2 ∧ o.2 < t.nextCursor ∧ o.1 < (n.links.set i _).length
    rw [List.length_set, entered.next]
    rcases List.mem_append.1 mem with mem | mem
    · obtain ⟨positive, old, link⟩ := h.given o mem
      exact ⟨positive, Nat.lt_succ_of_lt old, link⟩
    · rw [List.mem_singleton.1 mem, next]
      exact ⟨h.numbered.positive, Nat.lt_succ_self _, length⟩
  · intro id still
    by_cases this : id = batch.cursor
    · exact ⟨i, by simp [this]⟩
    · have before : (n.store.cursors.get? id).isSome := others this ▸ still
      obtain ⟨j, mem⟩ := h.opener id before
      exact ⟨j, List.mem_append_left _ mem⟩
  · intro j l' there id mem
    rcases getElem?_set_cases there with ⟨rfl, rfl⟩ | ⟨-, there⟩
    · rcases (records id).1 mem with mem | rfl
      · exact List.mem_append_left _ (h.tracked i l here id mem)
      · exact List.mem_append_right _ (List.mem_singleton_self _)
    · exact List.mem_append_left _ (h.tracked j l' there id mem)
  · intro j l' there id mem still
    rcases List.mem_append.1 mem with mem | mem
    · have old := (h.given _ mem).2.1
      have before : (n.store.cursors.get? id).isSome :=
        others (by rw [next]; exact Nat.ne_of_lt old) ▸ still
      rcases getElem?_set_cases there with ⟨rfl, rfl⟩ | ⟨-, there⟩
      · exact (records id).2 (.inl (h.open_tracked i l here id mem before))
      · exact h.open_tracked j l' there id mem before
    · obtain ⟨rfl, rfl⟩ := Prod.mk.inj (List.mem_singleton.1 mem)
      rcases getElem?_set_cases there with ⟨-, rfl⟩ | ⟨different, -⟩
      · exact (records _).2 (.inr rfl)
      · exact absurd rfl different

/-- The store changes, but for its cursors. -/
theorem Kept.of_table (h : n.Kept opened) {t : Store}
    (same : ∀ id, t.cursors.get? id = n.store.cursors.get? id)
    (next : n.store.nextCursor ≤ t.nextCursor) : Kept ⟨t, n.links⟩ opened where
  numbered := ⟨Nat.lt_of_lt_of_le h.numbered.positive next, fun id still =>
    Nat.lt_of_lt_of_le (h.numbered.known id (same id ▸ still)) next⟩
  ascending := h.ascending
  given o mem := by
    obtain ⟨positive, old, link⟩ := h.given o mem
    exact ⟨positive, Nat.lt_of_lt_of_le old next, link⟩
  opener id still := h.opener id (same id ▸ still)
  tracked := h.tracked
  open_tracked i l there id mem still := h.open_tracked i l there id mem (same id ▸ still)

/-- A connection joins in. -/
theorem Kept.connects (h : n.Kept opened) {l : Link} (fresh : l.connection.cursors = []) :
    Kept ⟨n.store, n.links ++ [l]⟩ opened where
  numbered := h.numbered
  ascending := h.ascending
  given o mem := by
    obtain ⟨positive, old, link⟩ := h.given o mem
    rw [List.length_append]
    exact ⟨positive, old, Nat.lt_add_right _ link⟩
  opener := h.opener
  tracked i l' there id mem := by
    rw [List.getElem?_append] at there
    split at there
    · exact h.tracked i l' there id mem
    · obtain rfl := List.mem_singleton.1 (List.mem_of_getElem? there)
      rw [fresh] at mem
      cases mem
  open_tracked i l' there id mem still := by
    rw [List.getElem?_append_left (h.given _ mem).2.2] at there
    exact h.open_tracked i l' there id mem still

/-- **What a step preserves.** -/
theorem Kept.step (h : n.Kept opened) (x : Step) :
    (n.step x).2.Kept (opened ++ (opening? (x, (n.step x).1)).toList) ∧
      Ages n.store (n.step x).2.store := by
  have unopened {m : Network} (kept : m.Kept opened) :
      m.Kept (opened ++ (none : Option (Nat × Nat)).toList) := by
    rw [Option.toList_none, List.append_nil]
    exact kept
  obtain ⟨clock, act⟩ := x
  have begun : Kept ⟨n.store.atTime clock, n.links⟩ opened := h.of_table (fun _ => rfl) (Nat.le_refl _)
  have aged : Ages n.store (n.store.atTime clock) := .of_table (fun _ => rfl) (Nat.le_refl _)
  unfold Network.step
  cases act with
  | connect mode =>
    have same := ((n.store.atTime clock).alike_connect mode).sameBut
    have table (id : Nat) := same.others id List.not_mem_nil
    have joined := begun.of_table table same.next
    have older := aged.trans (.of_table table same.next)
    have fresh (k : Connection) (made : ((n.store.atTime clock).connect mode).1 = .ok k) :=
      Store.cursors_connect made
    dsimp only
    revert joined older fresh
    obtain ⟨e | k, s⟩ := (n.store.atTime clock).connect mode
    · exact fun joined older _ => ⟨unopened joined, older⟩
    · exact fun joined older fresh =>
        ⟨unopened (joined.connects (l := ⟨mode, k⟩) (fresh k rfl)), older⟩
  | request i r =>
    dsimp only
    cases here : n.links[i]? with
    | none => exact ⟨unopened begun, aged⟩
    | some l =>
      show Kept ⟨_, n.links.set i { l with connection := (l.perform _ r).2.1 }⟩
          (opened ++ (opening? (⟨clock, .request i r⟩, (l.perform _ r).1)).toList) ∧
        Ages n.store (l.perform _ r).2.2
      rcases perform_cases l begun.numbered begun.zero r with
        ⟨batch, answer, next, more, recorded, entered⟩ | ⟨last, narrows⟩
      · have opening : opening? (⟨clock, .request i r⟩, (l.perform (n.store.atTime clock) r).1) =
            some (i, batch.cursor) := by
          rw [answer, opening?, more]
          rfl
        rw [opening, recorded]
        exact ⟨begun.opens here next more entered, aged.trans (.of_opened entered)⟩
      · have opening : opening? (⟨clock, .request i r⟩, (l.perform (n.store.atTime clock) r).1) =
            none := by
          revert last
          cases (l.perform (n.store.atTime clock) r).1 with
          | opened result =>
            cases result with
            | error e => exact fun _ => rfl
            | ok batch => exact fun last => if_pos (last batch rfl)
          | _ => exact fun _ => rfl
        rw [opening]
        exact ⟨unopened (begun.narrows here narrows), aged.trans (.of_narrows narrows)⟩
  | adjust a =>
    have table (id : Nat) : ((n.store.atTime clock).adjust a).cursors.get? id =
        (n.store.atTime clock).cursors.get? id :=
      congrArg (·.get? id) ((Store.blind_adjust a).cursors (n.store.atTime clock))
    have next : n.store.nextCursor ≤ ((n.store.atTime clock).adjust a).nextCursor := by
      cases a <;> exact Nat.le_refl _
    exact ⟨unopened (begun.of_table table next), aged.trans (.of_table table next)⟩

/-- **What a run preserves.** -/
theorem Kept.run (h : n.Kept opened) (steps : List Step) :
    (n.run steps).2.Kept (opened ++ openings (n.run steps).1) ∧
      Ages n.store (n.run steps).2.store := by
  induction steps generalizing n opened with
  | nil =>
    show n.Kept (opened ++ []) ∧ Ages n.store n.store
    rw [List.append_nil]
    exact ⟨h, .of_table (fun _ => rfl) (Nat.le_refl _)⟩
  | cons x steps ih =>
    obtain ⟨next, aged⟩ := h.step x
    obtain ⟨rest, later⟩ := ih next
    have split : openings (n.run (x :: steps)).1 =
        (opening? (x, (n.step x).1)).toList ++ openings ((n.step x).2.run steps).1 := by
      rw [Network.run, openings, List.filterMap_cons]
      cases opening? (x, (n.step x).1) <;> rfl
    rw [split, ← List.append_assoc]
    exact ⟨rest, aged.trans later⟩

/-- **A reset closes the cursors that were opened over the connection**, and no others. -/
theorem Kept.get?_reset (h : n.Kept opened) (i : Nat) (clock : Clock) (id : Nat) :
    (n.step ⟨clock, .request i .reset⟩).2.store.cursors.get? id =
      if (i, id) ∈ opened then none else n.store.cursors.get? id := by
  unfold Network.step
  dsimp only
  cases here : n.links[i]? with
  | none =>
    have absent : (i, id) ∉ opened := by
      intro mem
      have link := (h.given _ mem).2.2
      rw [List.getElem?_eq_none_iff] at here
      omega
    rw [if_neg absent]
    rfl
  | some l =>
    show (l.connection.reset (n.store.atTime clock)).2.cursors.get? id = _
    rw [Connection.get?_reset]
    by_cases mem : (i, id) ∈ opened
    · rw [if_pos mem]
      split
      · rfl
      · rename_i stale
        cases found : (n.store.atTime clock).cursors.get? id with
        | none => rfl
        | some state =>
          have opened : (n.store.cursors.get? id).isSome := Option.isSome_of_eq_some found
          exact absurd (h.open_tracked i l here id mem opened) stale
    · rw [if_neg mem, if_neg fun tracked => mem (h.tracked i l here id tracked)]
      rfl

end

/-- A store with no cursors yet, and no connection to it. -/
def start (s : Store) : Network := ⟨{ s with cursors := [], nextCursor := 1 }, []⟩

theorem kept_start (s : Store) : (start s).Kept [] where
  numbered := ⟨Nat.one_pos, nofun⟩
  ascending := .nil
  given := nofun
  opener := nofun
  tracked := nofun
  open_tracked := nofun

end Network

end DocStore
