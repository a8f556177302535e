import DocStore.Client.Pool
import Mathlib.Data.List.Basic

/-!
# The traffic of a pool

A pool together with the guards that it has handed out and that are still alive
(`Pool.Traffic`). Connections are handed out, called and dropped in any order, calls fail or are
given up, and what the connections lead to changes at any moment. Through all of it a slot is taken
for each live guard, and no other (`Pool.Traffic.Balanced`). The pools of both modes are of this kind;
where one counts its slots, the other lends a permit to each guard.
-/

namespace DocStore.Pool

variable {κ σ : Type}

/-- What is done with a pool and the guards that it has handed out. -/
inductive Use (κ σ : Type) : Type 1 where
  | acquire
  /-- Makes a call on a guard, with whatever outcome. -/
  | call {α : Type} (i : Nat) (f : κ → σ → TransportResult α × κ × σ)
  /-- Begins a call on a guard that is given up while it is pending. -/
  | abandon (i : Nat) (f : κ → σ → κ × σ)
  /-- Kills a cursor on the connection of a guard, which is not a call. -/
  | kill (i : Nat) (f : κ → σ → κ × σ)
  | drop (i : Nat)
  | close
  /-- Changes what the connections lead to. -/
  | happen (f : σ → σ)

/-- A pool, its live guards in the order in which they were handed out, and the state of what the
connections lead to. -/
structure Traffic (κ σ : Type) where
  pool : Pool κ
  guards : List (Guard κ) := []
  state : σ

namespace Traffic

/-- A new pool. -/
def start (maxSize acquireTimeoutMs : Nat) (state : σ) : Traffic κ σ :=
  { pool := { maxSize, acquireTimeoutMs }, state }

/-- Works on a guard, if it is there. -/
def onGuard (t : Traffic κ σ) (i : Nat) (f : Guard κ → σ → Guard κ × σ) : Traffic κ σ :=
  match t.guards[i]? with
  | none => t
  | some g =>
    let (g, s) := f g t.state
    { t with guards := t.guards.set i g, state := s }

/-- One thing done. -/
def step (connector : Connector κ σ) (t : Traffic κ σ) : Use κ σ → Traffic κ σ
  | .acquire =>
    match t.pool.acquire connector t.state with
    | (.ok g, p, s) => ⟨p, t.guards ++ [g], s⟩
    | (.error _, p, s) => ⟨p, t.guards, s⟩
  | .call i f => t.onGuard i fun g s =>
    let (_, g, s) := g.call f s
    (g, s)
  | .abandon i f => t.onGuard i fun g s =>
    let (connection, s) := f g.begin.connection s
    ({ g.begin with connection }, s)
  | .kill i f => t.onGuard i fun g s =>
    let (connection, s) := f g.connection s
    ({ g with connection }, s)
  | .drop i =>
    match t.guards[i]? with
    | none => t
    | some g =>
      let (p, s) := t.pool.release connector g t.state
      ⟨p, t.guards.eraseIdx i, s⟩
  | .close => { t with pool := t.pool.close }
  | .happen f => { t with state := f t.state }

/-- Things done one after the other. -/
def run (connector : Connector κ σ) (t : Traffic κ σ) (uses : List (Use κ σ)) : Traffic κ σ :=
  uses.foldl (step connector) t

/-- As many slots are taken as guards are alive; guards and idle connections fit into the pool
together, and a closed pool has no idle connections. -/
structure Balanced (t : Traffic κ σ) : Prop where
  slots : t.pool.inUse = t.guards.length
  bounded : t.pool.idle.length + t.guards.length ≤ t.pool.maxSize
  shut : t.pool.closed = true → t.pool.idle = []

end Traffic

/-! ## What a pool can do -/

section

variable {connector : Connector κ σ} {p : Pool κ} {s : σ}

/-- The ways in which a connection is handed out, or is not. -/
inductive Acquires (connector : Connector κ σ) (p : Pool κ) (s : σ) :
    TransportResult (Guard κ) × Pool κ × σ → Prop where
  | closed (shut : p.closed = true) : Acquires connector p s (.error closedError, p, s)
  | exhausted (opened : p.closed = false) (full : p.maxSize ≤ p.inUse) :
    Acquires connector p s (.error .poolExhausted, p, s)
  | unconnected {e : TransportError} {s' : σ} (opened : p.closed = false) (none : p.idle = [])
    (failed : connector.connect s = (.error e, s')) : Acquires connector p s (.error e, p, s')
  | reused {k : κ} {rest : List κ} (opened : p.closed = false) (free : p.inUse < p.maxSize)
    (idle : p.idle = k :: rest) : Acquires connector p s
      (.ok { connection := k },
        { p with inUse := p.inUse + 1, idle := rest, acquired := p.acquired + 1 }, s)
  | connected {k : κ} {s' : σ} (opened : p.closed = false) (free : p.inUse < p.maxSize)
    (none : p.idle = []) (done : connector.connect s = (.ok k, s')) : Acquires connector p s
      (.ok { connection := k },
        { p with inUse := p.inUse + 1, created := p.created + 1, acquired := p.acquired + 1 }, s')

/-- Every way but two leaves the pool as it was; a failed connect gives its slot back. -/
theorem acquires (connector : Connector κ σ) (p : Pool κ) (s : σ) :
    Acquires connector p s (p.acquire connector s) := by
  unfold acquire takeSlot
  by_cases shut : p.closed = true
  · rw [if_pos shut]
    exact .closed shut
  · have opened : p.closed = false := by simpa using shut
    rw [if_neg shut]
    by_cases slot : p.hasSlot = true
    · have free : p.inUse < p.maxSize := by simpa [hasSlot] using slot
      rw [if_pos slot]
      cases idle : p.idle with
      | cons k rest => exact .reused opened free idle
      | nil =>
        cases done : connector.connect s with
        | mk r s' =>
          cases r with
          | error e =>
            have back : giveSlot { p with inUse := p.inUse + 1, idle := [] } = p := by
              rw [giveSlot, ← idle]
              rfl
            simp only [List.head?_nil, List.tail_nil, back]
            exact .unconnected opened idle done
          | ok k =>
            simp only [List.head?_nil, List.tail_nil]
            rw [← idle]
            exact .connected opened free idle done
    · have full : p.maxSize ≤ p.inUse := by simpa [hasSlot] using slot
      rw [if_neg slot]
      exact .exhausted opened full

/-- A connection that is taken back, reset or not, comes to lie on top of the idle ones, or
nowhere. -/
theorem release_cases (connector : Connector κ σ) (p : Pool κ) (g : Guard κ) (s : σ) :
    ∃ k s' resets, ((k, s') = (g.connection, s) ∨ (k, s') = connector.reset g.connection s) ∧
      (p.release connector g s =
          ({ p with inUse := p.inUse - 1, resets, idle := k :: p.idle }, s') ∧ p.closed = false ∨
        p.release connector g s = ({ p with inUse := p.inUse - 1, resets }, s')) := by
  have cleaned : ∃ k s' resets,
      ((k, s') = (g.connection, s) ∨ (k, s') = connector.reset g.connection s) ∧
        p.clean connector g s = (k, { p with resets }, s') := by
    unfold clean
    split
    · exact ⟨_, _, _, .inr rfl, rfl⟩
    · exact ⟨_, _, p.resets, .inl rfl, rfl⟩
  obtain ⟨k, s', resets, source, cleaned⟩ := cleaned
  refine ⟨k, s', resets, source, ?_⟩
  rw [release, cleaned]
  dsimp only
  split
  · rename_i kept
    exact .inl ⟨rfl, by simpa [giveSlot] using (Bool.and_eq_true_iff.1 kept).2⟩
  · exact .inr rfl

/-- What a connection leads to is as it was when the connection is taken back, or as a reset left
it. -/
theorem state_release (connector : Connector κ σ) (p : Pool κ) (g : Guard κ) (s : σ) :
    (p.release connector g s).2 = s ∨
      (p.release connector g s).2 = (connector.reset g.connection s).2 := by
  obtain ⟨k, s', _, source, ⟨released, -⟩ | released⟩ := release_cases connector p g s
  all_goals
    rw [released]
    rcases source with same | reset
    · exact .inl (congrArg Prod.snd same)
    · exact .inr (congrArg Prod.snd reset)

theorem inUse_release (connector : Connector κ σ) (p : Pool κ) (g : Guard κ) (s : σ) :
    (p.release connector g s).1.inUse = p.inUse - 1 := by
  obtain ⟨k, s', resets, -, ⟨released, -⟩ | released⟩ := release_cases connector p g s
  · rw [released]
  · rw [released]

end

namespace Traffic

variable {connector : Connector κ σ} {t : Traffic κ σ}

/-! ## Slots -/

/-- Work on a guard leaves the pool and the number of guards alone. -/
theorem onGuard_frame (t : Traffic κ σ) (i : Nat) (f : Guard κ → σ → Guard κ × σ) :
    (t.onGuard i f).pool = t.pool ∧ (t.onGuard i f).guards.length = t.guards.length := by
  unfold onGuard
  split
  · exact ⟨rfl, rfl⟩
  · exact ⟨rfl, List.length_set ..⟩

theorem Balanced.onGuard (h : t.Balanced) (i : Nat) (f : Guard κ → σ → Guard κ × σ) :
    (t.onGuard i f).Balanced := by
  obtain ⟨pool, guards⟩ := onGuard_frame t i f
  constructor
  · rw [pool, guards]
    exact h.slots
  · rw [pool, guards]
    exact h.bounded
  · rw [pool]
    exact h.shut

/-- **Whatever is done keeps the balance.** -/
theorem Balanced.step (h : t.Balanced) (u : Use κ σ) : (t.step connector u).Balanced := by
  obtain ⟨slots, bounded, shut⟩ := h
  cases u with
  | acquire =>
    have ways := acquires connector t.pool t.state
    rw [Traffic.step]
    generalize t.pool.acquire connector t.state = r at ways
    cases ways with
    | closed | exhausted | unconnected => exact ⟨slots, bounded, shut⟩
    | reused opened free idle =>
      rw [idle, List.length_cons] at bounded
      refine ⟨?_, ?_, ?_⟩
      · simp [slots]
      · simp only [List.length_append, List.length_singleton]
        omega
      · simp [opened]
    | connected opened free none =>
      refine ⟨?_, ?_, ?_⟩
      · simp [slots]
      · simp only [none, List.length_append, List.length_singleton, List.length_nil]
        omega
      · simp [opened]
  | call i f =>
    rw [Traffic.step]
    exact Balanced.onGuard ⟨slots, bounded, shut⟩ i _
  | abandon i f =>
    rw [Traffic.step]
    exact Balanced.onGuard ⟨slots, bounded, shut⟩ i _
  | kill i f =>
    rw [Traffic.step]
    exact Balanced.onGuard ⟨slots, bounded, shut⟩ i _
  | drop i =>
    rw [Traffic.step]
    split
    · exact ⟨slots, bounded, shut⟩
    · rename_i g here
      have live : i < t.guards.length := (List.getElem?_eq_some_iff.1 here).1
      have fewer := List.length_eraseIdx_of_lt live
      obtain ⟨k, s', resets, -, ⟨released, opened⟩ | released⟩ :=
        release_cases connector t.pool g t.state
      · rw [released]
        refine ⟨?_, ?_, ?_⟩
        · simp only [fewer, slots]
        · simp only [fewer, List.length_cons]
          omega
        · simp [opened]
      · rw [released]
        refine ⟨?_, ?_, shut⟩
        · simp only [fewer, slots]
        · dsimp only
          omega
  | close =>
    have fits : t.guards.length ≤ t.pool.maxSize := by omega
    exact ⟨slots, by simpa [Traffic.step, Pool.close] using fits, fun _ => rfl⟩
  | happen f => exact ⟨slots, bounded, shut⟩

theorem Balanced.run (h : t.Balanced) (uses : List (Use κ σ)) : (t.run connector uses).Balanced := by
  induction uses generalizing t with
  | nil => exact h
  | cons u uses ih => exact ih (h.step u)

theorem balanced_start (maxSize acquireTimeoutMs : Nat) (s : σ) :
    (start maxSize acquireTimeoutMs s : Traffic κ σ).Balanced :=
  ⟨rfl, Nat.zero_le _, fun _ => rfl⟩

/-! ## Size and closing -/

/-- Nothing that is done changes the size of the pool, and only closing it opens or closes it. -/
theorem step_frame (connector : Connector κ σ) (t : Traffic κ σ) (u : Use κ σ) :
    (t.step connector u).pool.maxSize = t.pool.maxSize ∧
      ((t.step connector u).pool.closed = true ↔ t.pool.closed = true ∨ u = .close) := by
  cases u with
  | acquire =>
    have ways := acquires connector t.pool t.state
    rw [step]
    generalize t.pool.acquire connector t.state = r at ways
    cases ways <;> simp
  | call i f | abandon i f | kill i f =>
    rw [step, (onGuard_frame t i _).1]
    simp
  | drop i =>
    rw [step]
    split
    · simp
    · rename_i g _
      obtain ⟨k, s', resets, -, ⟨released, -⟩ | released⟩ :=
        release_cases connector t.pool g t.state
      · simp [released]
      · simp [released]
  | close => simp [step, Pool.close]
  | happen f => simp [step]

theorem maxSize_run (connector : Connector κ σ) (t : Traffic κ σ) (uses : List (Use κ σ)) :
    (t.run connector uses).pool.maxSize = t.pool.maxSize := by
  induction uses generalizing t with
  | nil => rfl
  | cons u uses ih => exact (ih _).trans (step_frame connector t u).1

/-- A pool that was closed stays closed. -/
theorem closed_run (connector : Connector κ σ) (t : Traffic κ σ) (uses : List (Use κ σ)) :
    (t.run connector uses).pool.closed = true ↔ t.pool.closed = true ∨ .close ∈ uses := by
  induction uses generalizing t with
  | nil => simp [run]
  | cons u uses ih =>
    rw [run, List.foldl_cons]
    refine (ih _).trans ?_
    rw [(step_frame connector t u).2, List.mem_cons, or_assoc, eq_comm (a := u)]

end Traffic

end DocStore.Pool
