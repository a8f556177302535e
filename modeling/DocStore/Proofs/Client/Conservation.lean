import DocStore.Proofs.Client.PoolTraffic
import Mathlib.Data.List.Nodup
import Mathlib.Data.List.Perm.Subperm

/-!
# Connections are conserved

To follow each connection through a pool, connections are numbered as they are opened
(`Connector.numbered`); nothing else changes by that (`Pool.Traffic.forget_run`). Every number is
then in one place: with a guard, among the idle ones, or discarded (`Pool.Traffic.Traced`), and what
is discarded never comes back (`Pool.Traffic.conserved`).
-/

namespace DocStore

variable {κ σ : Type}

/-! ## Numbers on connections -/

/-- Work on a connection and the state, beside their numbers. -/
def Connector.beside (f : κ → σ → κ × σ) (k : Nat × κ) (s : Nat × σ) : (Nat × κ) × (Nat × σ) :=
  ((k.1, (f k.2 s.2).1), (s.1, (f k.2 s.2).2))

/-- The connector that gives each connection a number of its own. The state carries the next one. -/
def Connector.numbered (c : Connector κ σ) : Connector (Nat × κ) (Nat × σ) where
  connect s :=
    match c.connect s.2 with
    | (.ok k, s') => (.ok (s.1, k), (s.1 + 1, s'))
    | (.error e, s') => (.error e, (s.1, s'))
  reset := beside c.reset
  isHealthy k s := c.isHealthy k.2 s.2

/-- The guard without the number. -/
def Guard.forget (g : Guard (Nat × κ)) : Guard κ := ⟨g.connection.2, g.dirty⟩

theorem Connector.next_of_failed {c : Connector κ σ} {s s' : Nat × σ} {e : TransportError}
    (failed : c.numbered.connect s = (.error e, s')) : s'.1 = s.1 := by
  simp only [numbered] at failed
  split at failed <;> cases failed
  rfl

/-- Connections are numbered in the order in which they are opened. -/
theorem Connector.number_of_connected {c : Connector κ σ} {s s' : Nat × σ} {k : Nat × κ}
    (connected : c.numbered.connect s = (.ok k, s')) : k.1 = s.1 ∧ s'.1 = s.1 + 1 := by
  simp only [numbered] at connected
  split at connected <;> cases connected
  exact ⟨rfl, rfl⟩

namespace Pool

/-- The pool without the numbers. -/
def forget (p : Pool (Nat × κ)) : Pool κ := { p with idle := p.idle.map (·.2) }

/-- The same done with numbered connections. -/
def Use.numbered : Use κ σ → Use (Nat × κ) (Nat × σ)
  | .acquire => .acquire
  | .call i f => .call i fun k s =>
    let (r, k', s') := f k.2 s.2
    (r, (k.1, k'), (s.1, s'))
  | .abandon i f => .abandon i (Connector.beside f)
  | .kill i f => .kill i (Connector.beside f)
  | .drop i => .drop i
  | .close => .close
  | .happen f => .happen fun s => (s.1, f s.2)

/-- The numbers change nothing of what a pool hands out. -/
theorem forget_acquire (c : Connector κ σ) (p : Pool (Nat × κ)) (s : Nat × σ) :
    p.forget.acquire c s.2 = ((p.acquire c.numbered s).1.map Guard.forget,
      (p.acquire c.numbered s).2.1.forget, (p.acquire c.numbered s).2.2.2) := by
  unfold acquire takeSlot
  by_cases shut : p.closed = true
  · rw [if_pos shut, if_pos (show p.forget.closed = true from shut)]
    rfl
  rw [if_neg shut, if_neg (show ¬ p.forget.closed = true from shut)]
  by_cases slot : p.hasSlot = true
  · rw [if_pos slot, if_pos (show p.forget.hasSlot = true from slot)]
    cases idle : p.idle with
    | cons k rest => simp [forget, idle, Except.map, Guard.forget]
    | nil =>
      simp only [forget, idle, Connector.numbered]
      cases connected : c.connect s.2 with
      | mk r s' => cases r <;> simp [Except.map, Guard.forget, giveSlot]
  · rw [if_neg slot, if_neg (show ¬ p.forget.hasSlot = true from slot)]
    rfl

/-- Nor of what it takes back. -/
theorem forget_release (c : Connector κ σ) (p : Pool (Nat × κ)) (g : Guard (Nat × κ))
    (s : Nat × σ) : p.forget.release c g.forget s.2 =
      ((p.release c.numbered g s).1.forget, (p.release c.numbered g s).2.2) := by
  have cleaned : p.forget.clean c g.forget s.2 = ((p.clean c.numbered g s).1.2,
      (p.clean c.numbered g s).2.1.forget, (p.clean c.numbered g s).2.2.2) := by
    unfold clean
    by_cases dirty : g.dirty = true
    · rw [if_pos dirty, if_pos (show g.forget.dirty = true from dirty)]
      rfl
    · rw [if_neg dirty, if_neg (show ¬ g.forget.dirty = true from dirty)]
      rfl
  rw [release, release, cleaned]
  obtain ⟨k, q, s'⟩ := p.clean c.numbered g s
  have kept : (c.isHealthy k.2 s'.2 && !q.forget.giveSlot.closed) =
      (c.numbered.isHealthy k s' && !q.giveSlot.closed) := rfl
  dsimp only
  rw [kept]
  split <;> rfl

namespace Traffic

/-- The traffic without the numbers. -/
def forget (t : Traffic (Nat × κ) (Nat × σ)) : Traffic κ σ :=
  ⟨t.pool.forget, t.guards.map Guard.forget, t.state.2⟩

theorem forget_onGuard (t : Traffic (Nat × κ) (Nat × σ)) (i : Nat)
    {f : Guard (Nat × κ) → Nat × σ → Guard (Nat × κ) × (Nat × σ)} {f' : Guard κ → σ → Guard κ × σ}
    (same : ∀ g s, f' g.forget s.2 = ((f g s).1.forget, (f g s).2.2)) :
    (t.onGuard i f).forget = t.forget.onGuard i f' := by
  unfold onGuard
  simp only [forget, List.getElem?_map]
  cases t.guards[i]? with
  | none => rfl
  | some g => simp only [Option.map_some, same, List.map_set]

theorem forget_step (c : Connector κ σ) (t : Traffic (Nat × κ) (Nat × σ)) (u : Use κ σ) :
    (t.step c.numbered u.numbered).forget = t.forget.step c u := by
  cases u with
  | acquire =>
    have same := forget_acquire c t.pool t.state
    rw [Use.numbered, step, step]
    simp only [forget] at same ⊢
    rw [same]
    obtain ⟨e | g, p, s⟩ := t.pool.acquire c.numbered t.state
    · rfl
    · simp [Except.map]
  | call i f =>
    rw [Use.numbered, step, step]
    exact forget_onGuard t i fun g s => rfl
  | abandon i f =>
    rw [Use.numbered, step, step]
    exact forget_onGuard t i fun g s => rfl
  | kill i f =>
    rw [Use.numbered, step, step]
    exact forget_onGuard t i fun g s => rfl
  | drop i =>
    rw [Use.numbered, step, step]
    simp only [forget, List.getElem?_map]
    cases t.guards[i]? with
    | none => rfl
    | some g => simp [forget_release, List.eraseIdx_map]
  | close => rfl
  | happen f => rfl

/-- **Numbers change nothing.** -/
theorem forget_run (c : Connector κ σ) (t : Traffic (Nat × κ) (Nat × σ)) (uses : List (Use κ σ)) :
    (t.run c.numbered (uses.map Use.numbered)).forget = t.forget.run c uses := by
  induction uses generalizing t with
  | nil => rfl
  | cons u uses ih =>
    rw [List.map_cons, run, List.foldl_cons, run, List.foldl_cons, ← forget_step]
    exact ih _

/-! ## Places of connections -/

section

variable {σ' : Type} (t : Traffic (Nat × κ) σ')

/-- The numbers of the connections that guards hold. -/
def inGuards : List Nat := t.guards.map (·.connection.1)

/-- The numbers of the idle connections. -/
def inIdle : List Nat := t.pool.idle.map (·.1)

/-- The numbers of the connections that are still there. -/
def held : List Nat := t.inGuards ++ t.inIdle

/-- The numbers of the connections that were opened and are no longer there. -/
def discarded : List Nat := (List.range t.pool.created).filter (· ∉ t.held)

end

/-- A connection is discarded if it was opened and is held nowhere. -/
theorem mem_discarded {σ' : Type} {t : Traffic (Nat × κ) σ'} {n : Nat} :
    n ∈ t.discarded ↔ n < t.pool.created ∧ n ∉ t.held := by
  simp [discarded]

variable {c : Connector κ σ} {t t' : Traffic (Nat × κ) (Nat × σ)}

/-- What one step does to the connections: it keeps some of those that were there, or adds a new
one. -/
inductive Moves (t t' : Traffic (Nat × κ) (Nat × σ)) : Prop where
  | within (count : t'.pool.created = t.pool.created) (next : t'.state.1 = t.state.1)
    (places : t'.held.Subperm t.held)
  | opened (count : t'.pool.created = t.pool.created + 1) (next : t'.state.1 = t.state.1 + 1)
    (places : t'.held.Perm (t.state.1 :: t.held))

theorem moves_onGuard (t : Traffic (Nat × κ) (Nat × σ)) (i : Nat)
    {f : Guard (Nat × κ) → Nat × σ → Guard (Nat × κ) × (Nat × σ)}
    (keeps : ∀ g s, (f g s).1.connection.1 = g.connection.1 ∧ (f g s).2.1 = s.1) :
    t.Moves (t.onGuard i f) := by
  unfold onGuard
  split
  · exact .within rfl rfl (.refl _)
  · rename_i g here
    obtain ⟨live, rfl⟩ := List.getElem?_eq_some_iff.1 here
    refine .within rfl (keeps _ _).2 (List.Perm.subperm (.of_eq ?_))
    have number : (t.guards.map (·.connection.1))[i]? = some t.guards[i].connection.1 := by
      rw [List.getElem?_map, here, Option.map_some]
    obtain ⟨_, same⟩ := List.getElem?_eq_some_iff.1 number
    simp only [held, inGuards, inIdle, List.map_set, (keeps _ _).1]
    rw [← same, List.set_getElem_self]

/-- **A step moves connections, and opens at most one.** -/
theorem moves_step (c : Connector κ σ) (t : Traffic (Nat × κ) (Nat × σ)) (u : Use κ σ) :
    t.Moves (t.step c.numbered u.numbered) := by
  cases u with
  | acquire =>
    have ways := acquires c.numbered t.pool t.state
    rw [Use.numbered, step]
    generalize t.pool.acquire c.numbered t.state = r at ways
    cases ways with
    | closed | exhausted => exact .within rfl rfl (.refl _)
    | unconnected _ _ failed => exact .within rfl (Connector.next_of_failed failed) (.refl _)
    | @reused k rest _ _ idle =>
      refine .within rfl rfl (List.Perm.subperm ?_)
      simp [held, inGuards, inIdle, idle]
    | connected _ _ none done =>
      obtain ⟨number, next⟩ := Connector.number_of_connected done
      refine .opened rfl next ?_
      simp [held, inGuards, inIdle, none, number, List.perm_append_singleton]
  | call i f =>
    rw [Use.numbered, step]
    exact moves_onGuard t i fun g s => ⟨rfl, rfl⟩
  | abandon i f =>
    rw [Use.numbered, step]
    exact moves_onGuard t i fun g s => ⟨rfl, rfl⟩
  | kill i f =>
    rw [Use.numbered, step]
    exact moves_onGuard t i fun g s => ⟨rfl, rfl⟩
  | drop i =>
    rw [Use.numbered, step]
    split
    · exact .within rfl rfl (.refl _)
    · rename_i g here
      obtain ⟨live, rfl⟩ := List.getElem?_eq_some_iff.1 here
      obtain ⟨k, s', resets, source, released⟩ :=
        release_cases c.numbered t.pool t.guards[i] t.state
      have kept : k.1 = t.guards[i].connection.1 ∧ s'.1 = t.state.1 := by
        rcases source with same | same <;> cases same <;> exact ⟨rfl, rfl⟩
      have whole : t.inGuards.Perm (k.1 :: (t.guards.eraseIdx i).map (·.connection.1)) := by
        rw [kept.1]
        exact (List.getElem_cons_eraseIdx_perm live).symm.map (·.connection.1)
      rcases released with ⟨released, -⟩ | released
      · rw [released]
        refine .within rfl kept.2 (List.Perm.subperm ?_)
        exact List.perm_middle.trans (whole.symm.append_right t.inIdle)
      · rw [released]
        refine .within rfl kept.2 ((List.subperm_append_right t.inIdle).2 ?_)
        exact (List.sublist_cons_self ..).subperm.trans whole.symm.subperm
  | close =>
    have fewer : (t.step c.numbered Use.close.numbered).held = t.inGuards := List.append_nil _
    refine .within rfl rfl ?_
    rw [fewer]
    exact (List.sublist_append_left ..).subperm
  | happen f => exact .within rfl rfl (.refl _)

/-- Each connection is in one place at most, and its number is that of one that was opened. -/
structure Traced (t : Traffic (Nat × κ) (Nat × σ)) : Prop where
  next : t.state.1 = t.pool.created
  once : t.held.Nodup
  known : ∀ n ∈ t.held, n < t.pool.created

theorem traced_start (maxSize acquireTimeoutMs : Nat) (s : σ) :
    (start maxSize acquireTimeoutMs (0, s) : Traffic (Nat × κ) (Nat × σ)).Traced :=
  ⟨rfl, .nil, by simp [start, held, inGuards, inIdle]⟩

theorem Traced.moves (h : t.Traced) (m : t.Moves t') : t'.Traced ∧ t.discarded ⊆ t'.discarded := by
  cases m with
  | within count next places =>
    refine ⟨⟨?_, ?_, fun n hn => ?_⟩, fun n hn => ?_⟩
    · rw [next, count, h.next]
    · obtain ⟨l, perm, sub⟩ := places
      exact perm.nodup_iff.1 (h.once.sublist sub)
    · rw [count]
      exact h.known n (places.subset hn)
    · obtain ⟨below, away⟩ := mem_discarded.1 hn
      exact mem_discarded.2 ⟨count ▸ below, fun hit => away (places.subset hit)⟩
  | opened count next places =>
    have fresh : t.state.1 ∉ t.held := fun hit => by
      have := h.known _ hit
      rw [h.next] at this
      exact Nat.lt_irrefl _ this
    refine ⟨⟨?_, ?_, fun n hn => ?_⟩, fun n hn => ?_⟩
    · rw [next, count, h.next]
    · exact places.nodup_iff.2 (List.nodup_cons.2 ⟨fresh, h.once⟩)
    · rw [count]
      rcases List.mem_cons.1 (places.mem_iff.1 hn) with rfl | hn
      · rw [h.next]
        exact Nat.lt_succ_self _
      · exact Nat.lt_succ_of_lt (h.known n hn)
    · obtain ⟨below, away⟩ := mem_discarded.1 hn
      refine mem_discarded.2 ⟨count ▸ Nat.lt_succ_of_lt below, fun hit => ?_⟩
      rcases List.mem_cons.1 (places.mem_iff.1 hit) with rfl | hit
      · rw [h.next] at below
        exact Nat.lt_irrefl _ below
      · exact away hit

theorem Traced.run (h : t.Traced) (c : Connector κ σ) (uses : List (Use κ σ)) :
    (t.run c.numbered (uses.map Use.numbered)).Traced ∧
      t.discarded ⊆ (t.run c.numbered (uses.map Use.numbered)).discarded := by
  induction uses generalizing t with
  | nil => exact ⟨h, fun _ => id⟩
  | cons u uses ih =>
    obtain ⟨here, grown⟩ := h.moves (moves_step c t u)
    obtain ⟨last, later⟩ := ih here
    exact ⟨last, fun n hn => later (grown hn)⟩

/-- **Each connection that was opened is in exactly one place.** -/
theorem Traced.perm (h : t.Traced) : (t.held ++ t.discarded).Perm (List.range t.pool.created) := by
  have apart : t.held.Disjoint t.discarded := fun n hn out => (mem_discarded.1 out).2 hn
  have nodup : (t.held ++ t.discarded).Nodup :=
    List.nodup_append'.2 ⟨h.once, List.nodup_range.filter _, apart⟩
  refine (List.perm_ext_iff_of_nodup nodup List.nodup_range).2 fun n => ?_
  rw [List.mem_append, mem_discarded, List.mem_range]
  constructor
  · rintro (hn | ⟨below, -⟩)
    · exact h.known n hn
    · exact below
  · intro below
    by_cases hn : n ∈ t.held
    · exact .inl hn
    · exact .inr ⟨below, hn⟩

/-- **A pool conserves slots and connections.** Whatever is done with a new pool, in whatever order
and with whatever outcome, as many slots are taken as guards are alive, and guards and idle
connections fit into the pool together. Each connection that was opened is with one guard, or idle,
or discarded for good. A connection that cannot be opened leaves the pool as it was, and a guard that
is dropped gives back a slot that was taken. Once the pool is closed, no connection is idle and none
is handed out. -/
theorem conserved (c : Connector κ σ) (maxSize acquireTimeoutMs : Nat) (s : σ)
    (uses : List (Use κ σ)) :
    let t := (start maxSize acquireTimeoutMs s).run c uses
    let n := (start maxSize acquireTimeoutMs (0, s)).run c.numbered (uses.map Use.numbered)
    n.forget = t ∧
      (t.pool.inUse = t.guards.length ∧ t.pool.inUse ≤ maxSize ∧
        t.pool.idle.length + t.guards.length ≤ maxSize) ∧
      (n.inGuards ++ n.inIdle ++ n.discarded).Perm (List.range t.pool.created) ∧
      t.pool.created = t.guards.length + t.pool.idle.length + n.discarded.length ∧
      (∀ later : List (Use κ σ),
        n.discarded ⊆ (n.run c.numbered (later.map Use.numbered)).discarded) ∧
      (∀ e p s', t.pool.acquire c t.state = (.error e, p, s') → p = t.pool) ∧
      (∀ g ∈ t.guards, ∀ s', (t.pool.release c g s').1.inUse + 1 = t.pool.inUse) ∧
      (.close ∈ uses → t.pool.idle = [] ∧
        t.pool.acquire c t.state = (.error closedError, t.pool, t.state)) := by
  intro t n
  have same : n.forget = t := forget_run c _ uses
  obtain ⟨slots, bounded, shut⟩ : t.Balanced := (balanced_start maxSize acquireTimeoutMs s).run uses
  have size : t.pool.maxSize = maxSize := maxSize_run c _ uses
  have traced : n.Traced := ((traced_start maxSize acquireTimeoutMs s).run c uses).1
  have opened : n.pool.created = t.pool.created := congrArg (·.pool.created) same
  have places := traced.perm
  rw [opened, held] at places
  rw [size] at bounded
  refine ⟨same, ⟨slots, by omega, bounded⟩, places, ?_, fun later => (traced.run c later).2, ?_, ?_,
    ?_⟩
  · have total := places.length_eq
    have guards : n.inGuards.length = t.guards.length := by simp [← same, forget, inGuards]
    have idle : n.inIdle.length = t.pool.idle.length := by
      simp [← same, forget, inIdle, Pool.forget]
    simp only [List.length_append, List.length_range, guards, idle] at total
    exact total.symm
  · intro e p s' failed
    have ways := acquires c t.pool t.state
    rw [failed] at ways
    cases ways <;> rfl
  · intro g hg s'
    have live : 0 < t.guards.length := List.length_pos_of_mem hg
    rw [inUse_release]
    omega
  · intro done
    have closed : t.pool.closed = true := (closed_run c _ uses).2 (.inr done)
    refine ⟨shut closed, ?_⟩
    have ways := acquires c t.pool t.state
    generalize t.pool.acquire c t.state = r at ways
    cases ways with
    | closed => rfl
    | exhausted opened | unconnected opened | reused opened | connected opened =>
      rw [closed] at opened
      cases opened

end Traffic

end Pool

end DocStore
