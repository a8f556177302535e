import DocStore.Client.Basic
import DocStore.Proofs.Store.Timeless

/-!
# Calls in both modes

A call can be made by a caller that blocks or by one that is suspended. `Lockstep` says of a piece
of a call that, as long as the deadline is ahead, it does the same in both modes: the outcomes are
the same, and the states stay alike. Pieces are put together by `Lockstep.bind`, which carries the
bookkeeping of time: the clock never runs backwards, so that a deadline that is ahead after a call
was ahead at every moment of it.
-/

namespace DocStore

/-- The other mode. -/
def Mode.swap : Mode → Mode
  | .sync => .async
  | .async => .sync

@[simp]
theorem Mode.swap_swap (mode : Mode) : mode.swap.swap = mode := by
  cases mode <;> rfl

/-- The patience of a caller of a mode whose call began at an instant. -/
def Patience.of (mode : Mode) (started : Nat) (limit : Option Nat) : Patience :=
  match mode with
  | .sync => .blocked (limit.map (started + ·))
  | .async => .suspended limit

namespace Patience

variable {mode : Mode} {started deadline l : Nat} {limit : Option Nat}

/-- The deadline of a blocked caller is its limit counted from the beginning of the call. -/
theorem limit_of_blocked (h : of mode started limit = .blocked (some deadline)) :
    ∃ l, limit = some l ∧ deadline = started + l := by
  cases mode with
  | sync =>
    obtain ⟨l, hl, rfl⟩ := Option.map_eq_some_iff.1 (Patience.blocked.inj h)
    exact ⟨l, hl, rfl⟩
  | async => cases h

theorem limit_of_suspended (h : of mode started limit = .suspended (some l)) : limit = some l := by
  cases mode with
  | sync => cases h
  | async => exact Patience.suspended.inj h

end Patience

theorem Call.patience_mk (mode : Mode) (command : Command) (limit : Option Nat) (started : Nat) :
    (Call.mk mode command limit started).patience = .of mode started limit := by
  cases mode <;> rfl

/-- States with a clock that can be alike. -/
class Paired (σ : Type) where
  now : σ → Nat
  Alike : σ → σ → Prop

instance : Paired Store := ⟨fun s => s.clock.now, Store.Alike⟩

open Paired (now Alike)

/-- Sets the state apart from what a piece answers in two parts. -/
def regroup {α β σ : Type} (r : α × β × σ) : (α × β) × σ := ((r.1, r.2.1), r.2.2)

/-- The deadline of a call, if it has one, is ahead. -/
def Ahead {σ : Type} [Paired σ] (started : Nat) (limit : Option Nat) (c : σ) : Prop :=
  ∀ l, limit = some l → now c < started + l

/-- A piece of a call does the same in both modes, while the deadline is ahead. -/
structure Lockstep {σ α : Type} [Paired σ] (limit : Option Nat) (Same : α → α → Prop)
    (F : Mode → Nat → σ → α × σ) : Prop where
  mono : ∀ mode t c, now c ≤ now (F mode t c).2
  alike : ∀ mode t u c d, Alike c d → t ≤ now c → u ≤ now d →
    Ahead t limit (F mode t c).2 → Ahead u limit (F mode.swap u d).2 →
      Same (F mode t c).1 (F mode.swap u d).1 ∧ Alike (F mode t c).2 (F mode.swap u d).2

namespace Lockstep

section

variable {σ α β : Type} [Paired σ] {limit : Option Nat} {Same : β → β → Prop}

/-- A deadline that is ahead now was ahead at any moment before. -/
theorem ahead_of_le {c c' : σ} {started : Nat} (le : now c ≤ now c')
    (ahead : Ahead started limit c') : Ahead started limit c := fun l hl =>
  Nat.lt_of_le_of_lt le (ahead l hl)

theorem pure {v : Mode → β} (same : ∀ mode, Same (v mode) (v mode.swap)) :
    Lockstep limit Same fun mode _ (c : σ) => (v mode, c) := by
  constructor
  · intro _ _ c
    exact Nat.le_refl (now c)
  · intro mode _ _ _ _ alike _ _ _ _
    exact ⟨same mode, alike⟩

theorem const (v : β) : Lockstep limit Eq fun _ _ (c : σ) => (v, c) := .pure fun _ => rfl

/-- **Pieces that go in lockstep go in lockstep one after the other.** -/
theorem bind {F : Mode → Nat → σ → α × σ} {G : α → Mode → Nat → σ → β × σ}
    (first : Lockstep limit Eq F) (second : ∀ a, Lockstep limit Same (G a)) :
    Lockstep limit Same fun mode t c => G (F mode t c).1 mode t (F mode t c).2 := by
  constructor
  · intro mode t c
    exact Nat.le_trans (first.mono mode t c) ((second _).mono mode t _)
  · intro mode t u c d alike ht hu aheadc aheadd
    -- The deadline was ahead already before the second piece.
    have earlierc := ahead_of_le ((second _).mono mode t (F mode t c).2) aheadc
    have earlierd := ahead_of_le ((second _).mono mode.swap u (F mode.swap u d).2) aheadd
    obtain ⟨same, between⟩ := first.alike mode t u c d alike ht hu earlierc earlierd
    have laterc : t ≤ now (F mode t c).2 := Nat.le_trans ht (first.mono mode t c)
    have laterd : u ≤ now (F mode.swap u d).2 := Nat.le_trans hu (first.mono mode.swap u d)
    rw [← same] at aheadd ⊢
    exact (second _).alike mode t u _ _ between laterc laterd aheadc aheadd

/-- A piece may look at what is the same in states that are alike. -/
theorem read {γ : Type} {r : Mode → σ → γ} {G : γ → Mode → Nat → σ → β × σ}
    (same : ∀ mode c d, Alike c d → r mode.swap d = r mode c) (h : ∀ a, Lockstep limit Same (G a)) :
    Lockstep limit Same fun mode t c => G (r mode c) mode t c := by
  constructor
  · intro mode t c
    exact (h _).mono mode t c
  · intro mode t u c d alike ht hu aheadc aheadd
    rw [same mode c d alike] at aheadd ⊢
    exact (h _).alike mode t u c d alike ht hu aheadc aheadd

end

/-! ## Pieces on the store -/

section

variable {α : Type} {limit : Option Nat}

/-- What is timeless is the same in both modes, and takes no time. -/
theorem of_timeless {f : Store → α × Store} (h : Store.Timeless f) :
    Lockstep limit Eq fun _ _ => f := by
  constructor
  · intro _ _ s
    exact Nat.le_of_eq (congrArg Clock.now (h.clock s)).symm
  · intro _ _ _ _ _ alike _ _ _ _
    exact h.alike alike

/-- A piece that does nothing in time but let time pass, and answers by the store alone. -/
theorem of_wait {F : Mode → Nat → Store → α × Store} (answer : Store → α)
    (mono : ∀ mode t (s : Store), now s ≤ now (F mode t s).2)
    (same : ∀ s t : Store, s.Alike t → answer s = answer t)
    (waits : ∀ mode t (s : Store), t ≤ now s → Ahead t limit (F mode t s).2 →
      (F mode t s).1 = answer s ∧ s.Alike (F mode t s).2) :
    Lockstep limit Eq F := by
  constructor
  · exact mono
  · intro mode t u c d alike ht hu aheadc aheadd
    obtain ⟨answerc, waitc⟩ := waits mode t c ht aheadc
    obtain ⟨answerd, waitd⟩ := waits mode.swap u d hu aheadd
    constructor
    · rw [answerc, answerd, same c d alike]
    · exact waitc.symm.trans (Store.Alike.trans alike waitd)

end

end Lockstep

namespace Store

theorem now_le_readClock (s : Store) : s.clock.now ≤ s.readClock.2.clock.now := by
  have := s.clock.now_le_read
  rwa [Clock.read_fst] at this

theorem readClock_fst (s : Store) : s.readClock.1 = s.readClock.2.clock.now := s.clock.read_fst

theorem now_eq (s : Store) : now s = s.clock.now := rfl

theorem now_wait (s : Store) (ms : Nat) : (s.wait ms).clock.now = s.clock.now + ms := rfl

/-- The clock does not run backwards in a delay, also where the caller gives up. -/
theorem now_le_delay (s : Store) (p : Patience) : s.clock.now ≤ (s.delay p).2.clock.now := by
  unfold delay
  split
  · exact Nat.le_refl _
  · split
    · exact Nat.le_refl _
    · have read := s.now_le_readClock
      dsimp only
      split
      · rw [now_wait]
        omega
      · rw [now_wait]
        omega
    · split
      · rw [now_wait]
        omega
      · rw [now_wait]
        omega
    · rw [now_wait]
      omega

/-- What a delay answers if it ends in time. -/
def reached (s : Store) : TransportResult Unit :=
  if s.unreachable then .error unreachableError else .ok ()

/-- A delay that ends before the deadline has only let time pass. -/
theorem delay_of_ahead {mode : Mode} {started : Nat} {limit : Option Nat} {s : Store}
    (begun : started ≤ s.clock.now) (ahead : Ahead started limit (s.delay (.of mode started limit)).2) :
    (s.delay (.of mode started limit)).1 = s.reached ∧
      s.Alike (s.delay (.of mode started limit)).2 := by
  refine ⟨?_, s.alike_delay _⟩
  revert ahead
  unfold delay reached
  split
  · exact fun _ => rfl
  · split
    · exact fun _ => rfl
    · rename_i blocked
      obtain ⟨l, rfl, rfl⟩ := Patience.limit_of_blocked blocked
      have read := s.readClock_fst
      dsimp only
      split
      · intro ahead
        have := ahead l rfl
        rw [Store.now_eq, now_wait] at this
        omega
      · exact fun _ => rfl
    · rename_i suspended
      obtain rfl := Patience.limit_of_suspended suspended
      split
      · rename_i limit _ _
        intro ahead
        have := ahead limit rfl
        rw [Store.now_eq, now_wait] at this
        omega
      · exact fun _ => rfl
    · exact fun _ => rfl

/-- A delay has the same result in both modes while the deadline is ahead. -/
theorem delay_lockstep (limit : Option Nat) :
    Lockstep limit Eq fun mode started (s : Store) => s.delay (.of mode started limit) := by
  refine .of_wait reached (fun _ _ s => s.now_le_delay _) ?_ fun _ _ _ => delay_of_ahead
  rintro s t ⟨clock, blocking, async, rfl⟩
  rfl

/-- An operation of the store that is carried out after the delay of a call. -/
def delayed {α : Type} (f : Store → TransportResult α × Store) (p : Patience) (s : Store) :
    TransportResult α × Store :=
  match s.delay p with
  | (.error e, s) => (.error e, s)
  | (.ok (), s) => f s

/-- What is delayed is carried out if the store was reached. -/
theorem delayed_eq {α : Type} (f : Store → TransportResult α × Store) (p : Patience) (s : Store) :
    s.delayed f p = match (s.delay p).1 with
      | .error e => (.error e, (s.delay p).2)
      | .ok () => f (s.delay p).2 := by
  unfold delayed
  obtain ⟨_ | _, _⟩ := s.delay p <;> rfl

theorem delayed_of_error {α : Type} (f : Store → TransportResult α × Store) {p : Patience}
    {s : Store} {e : TransportError} (h : (s.delay p).1 = .error e) :
    s.delayed f p = (.error e, (s.delay p).2) := by
  rw [delayed_eq, h]

theorem delayed_of_ok {α : Type} (f : Store → TransportResult α × Store) {p : Patience}
    {s : Store} (h : (s.delay p).1 = .ok ()) : s.delayed f p = f (s.delay p).2 := by
  rw [delayed_eq, h]

theorem delayed_lockstep {α : Type} {f : Store → TransportResult α × Store} (h : Timeless f)
    (limit : Option Nat) :
    Lockstep limit Eq fun mode started (s : Store) => s.delayed f (.of mode started limit) := by
  simp only [delayed_eq]
  refine (delay_lockstep limit).bind (G := fun r _ _ s => match r with
    | .error e => (.error e, s)
    | .ok () => f s) fun r => ?_
  cases r with
  | error e => exact .const _
  | ok => exact .of_timeless h

/-! ## Changes that do not come -/

theorem now_le_awaitChange (s : Store) (p : Patience) :
    s.clock.now ≤ (s.awaitChange p).2.clock.now := by
  unfold awaitChange
  split
  · have read := s.now_le_readClock
    dsimp only
    rw [now_wait]
    omega
  · rw [now_wait]
    omega
  · exact Nat.le_refl _

/-- Without a deadline the modes do not differ in how they wait. -/
theorem awaitChange_of_none (s : Store) (mode : Mode) (started : Nat) :
    s.awaitChange (.of mode started none) = (.timeout 0, s) := by
  cases mode <;> rfl

theorem latency_nextBatch (s : Store) (cursor size : Nat) :
    (s.nextBatch cursor size).2.latency = s.latency := by
  unfold nextBatch
  cases s.cursors.get? cursor with
  | none => rfl
  | some state =>
    cases state with
    | buffered docs =>
      dsimp only
      split <;> rfl
    | tailing collection pipeline position =>
      dsimp only
      obtain ⟨n, result⟩ := follow collection pipeline (max size 1) [] (s.events.drop position)
      rcases result with refusal | (_ | ⟨doc, docs⟩) <;> rfl

/-- A suspended caller has waited for the latency when a call gets through. -/
theorem now_of_delay {s : Store} {l : Nat} (h : (s.delay (.suspended (some l))).1 = .ok ()) :
    (s.delay (.suspended (some l))).2.clock.now = s.clock.now + s.latency.getD 0 ∧
      (s.delay (.suspended (some l))).2.latency = s.latency := by
  revert h
  unfold delay
  split
  · exact fun h => nomatch h
  · cases hl : s.latency with
    | none => exact fun _ => ⟨rfl, hl⟩
    | some latency =>
      dsimp only
      split
      · exact fun h => nomatch h
      · exact fun _ => ⟨rfl, hl⟩

/-- Who waits for changes up to a deadline finds it passed. -/
theorem not_ahead_awaitChange {s : Store} {mode : Mode} {started l : Nat} {cursor size : Nat}
    (begun : started ≤ s.clock.now)
    (h : (s.delayed (·.nextBatch cursor size) (.of mode started (some l))).1 = .ok none) :
    ¬ Ahead started (some l) ((s.delayed (·.nextBatch cursor size)
      (.of mode started (some l))).2.awaitChange (.of mode started (some l))).2 := by
  intro ahead
  have soon := ahead l rfl
  rw [now_eq] at soon
  cases mode with
  | sync =>
    generalize (s.delayed (·.nextBatch cursor size) (.of .sync started (some l))).2 = after at soon
    have read := after.readClock_fst
    change (after.readClock.2.wait (started + l - after.readClock.1)).clock.now < _ at soon
    rw [now_wait] at soon
    omega
  | async =>
    -- The limit of a suspended caller covers the delay before the wait.
    have through : (s.delay (.suspended (some l))).1 = .ok () := by
      cases reached : (s.delay (.suspended (some l))).1 with
      | error e =>
        have failed : (s.delayed (·.nextBatch cursor size) (.suspended (some l))).1 = .ok none := h
        rw [delayed_of_error _ reached] at failed
        cases failed
      | ok => rfl
    have carried := delayed_of_ok (·.nextBatch cursor size) through
    obtain ⟨elapsed, latency⟩ := now_of_delay through
    have clock := (timeless_nextBatch cursor size).clock (s.delay (.suspended (some l))).2
    change ((s.delayed (·.nextBatch cursor size) (.suspended (some l))).2.wait
      (l - (s.delayed (·.nextBatch cursor size) (.suspended (some l))).2.latency.getD 0)).clock.now <
        _ at soon
    rw [carried, now_wait, latency_nextBatch, latency, clock, elapsed] at soon
    omega

end Store

namespace Connection

/-- A command is executed with the same result in both modes. -/
theorem execute_lockstep (k : Connection) (command : Command) (limit : Option Nat) :
    Lockstep limit Eq fun mode started (s : Store) =>
      regroup (k.execute (.of mode started limit) command s) := by
  have steps : (fun mode started (s : Store) =>
      regroup (k.execute (.of mode started limit) command s)) = fun mode started s =>
        (((s.delayed (·.execute command) (.of mode started limit)).1, k),
          (s.delayed (·.execute command) (.of mode started limit)).2) := by
    funext mode started s
    unfold execute Store.delayed
    obtain ⟨_ | _, _⟩ := s.delay (.of mode started limit) <;> rfl
  rw [steps]
  exact (Store.delayed_lockstep (Store.timeless_execute command) limit).bind
    (G := fun r _ _ s => ((r, k), s)) fun _ => .const _

/-- A cursor is opened on the store with the same first batch in both modes. -/
theorem openCursor_lockstep (k : Connection) (command : Command) (size : Nat)
    (limit : Option Nat) :
    Lockstep limit Eq fun mode started (s : Store) =>
      regroup (k.openCursor (.of mode started limit) command size s) := by
  have steps : (fun mode started (s : Store) =>
      regroup (k.openCursor (.of mode started limit) command size s)) = fun mode started s =>
        (((s.delayed (·.openCursor command size) (.of mode started limit)).1,
          match (s.delayed (·.openCursor command size) (.of mode started limit)).1 with
          | .ok batch => k.record batch
          | .error _ => k), (s.delayed (·.openCursor command size) (.of mode started limit)).2) := by
    funext mode started s
    unfold openCursor Store.delayed
    obtain ⟨_ | _, s⟩ := s.delay (.of mode started limit)
    · rfl
    · dsimp only
      obtain ⟨_ | _, s⟩ := s.openCursor command size <;> rfl
  rw [steps]
  exact (Store.delayed_lockstep (Store.timeless_openCursor command size) limit).bind
    (G := fun r _ _ s => ((r, match r with
      | .ok batch => k.record batch
      | .error _ => k), s)) fun _ => .const _

/-- What a fetch makes of a look at the cursor. -/
theorem getMore_eq (k : Connection) (p : Patience) (cursor size : Nat) (s : Store) :
    regroup (k.getMore p cursor size s) =
      match (s.delayed (·.nextBatch cursor size) p).1 with
      | .error e => ((.error e, k), (s.delayed (·.nextBatch cursor size) p).2)
      | .ok none =>
        ((.error ((s.delayed (·.nextBatch cursor size) p).2.awaitChange p).1, k),
          ((s.delayed (·.nextBatch cursor size) p).2.awaitChange p).2)
      | .ok (some batch) => ((.ok batch, if batch.isLast then k.forget cursor else k),
          (s.delayed (·.nextBatch cursor size) p).2) := by
  unfold getMore Store.delayed
  obtain ⟨_ | _, s⟩ := s.delay p
  · rfl
  · dsimp only
    obtain ⟨_ | _ | _, s⟩ := s.nextBatch cursor size <;> rfl

/-- The next batch is the same in both modes. A wait for changes uses the deadline up, which the
condition rules out. -/
theorem getMore_lockstep (k : Connection) (cursor size : Nat) (limit : Option Nat) :
    Lockstep limit Eq fun mode started (s : Store) =>
      regroup (k.getMore (.of mode started limit) cursor size s) := by
  have look := Store.delayed_lockstep (Store.timeless_nextBatch cursor size) limit
  have mono (p : Patience) (s : Store) :
      now (s.delayed (·.nextBatch cursor size) p).2 ≤ now (regroup (k.getMore p cursor size s)).2 := by
    rw [getMore_eq]
    split
    · exact Nat.le_refl _
    · exact Store.now_le_awaitChange _ p
    · exact Nat.le_refl _
  constructor
  · intro mode t s
    exact Nat.le_trans (look.mono mode t s) (mono _ s)
  · intro mode t u c d alike ht hu aheadc aheadd
    have earlierc := Lockstep.ahead_of_le (mono _ c) aheadc
    have earlierd := Lockstep.ahead_of_le (mono _ d) aheadd
    obtain ⟨same, between⟩ := look.alike mode t u c d alike ht hu earlierc earlierd
    rw [getMore_eq] at aheadc aheadd ⊢
    rw [getMore_eq]
    rw [← same] at aheadd ⊢
    split
    · exact ⟨rfl, between⟩
    · rename_i none
      -- Without a deadline nobody waits; with one the wait goes on until it has passed.
      cases limit with
      | none =>
        rw [Store.awaitChange_of_none, Store.awaitChange_of_none]
        exact ⟨rfl, between⟩
      | some l =>
        rw [none] at aheadc
        exact absurd aheadc (Store.not_ahead_awaitChange ht none)
    · exact ⟨rfl, between⟩

end Connection

/-! ## The end of a call -/

namespace Patience

theorem alike_isLate (p : Patience) (s : Store) : s.Alike (p.isLate s).2 := by
  unfold isLate
  split
  · exact s.alike_readClock
  · exact .refl s

theorem alike_awaitSlot (p : Patience) (timeoutMs : Nat) (s : Store) :
    s.Alike (p.awaitSlot timeoutMs s).2 := by
  unfold awaitSlot
  split
  · exact s.alike_readClock.trans (Store.alike_wait _ _)
  · split
    · exact Store.alike_wait s _
    · exact Store.alike_wait s _
  · exact Store.alike_wait s _

theorem awaitSlot_suspended (l timeoutMs : Nat) (s : Store) :
    awaitSlot (.suspended (some l)) timeoutMs s =
      if l < timeoutMs then (.timeout l, s.wait l) else (.poolExhausted, s.wait timeoutMs) := rfl

/-- Who gets no slot in time fails in the same way in both modes. -/
theorem awaitSlot_lockstep (timeoutMs : Nat) (limit : Option Nat) :
    Lockstep limit Eq fun mode started (s : Store) =>
      (of mode started limit).awaitSlot timeoutMs s := by
  refine .of_wait (fun _ => .poolExhausted) ?_ (fun _ _ _ => rfl) ?_
  · intro mode started s
    have read := s.now_le_readClock
    cases mode with
    | sync => exact Nat.le_trans read (Nat.le_add_right _ _)
    | async =>
      cases limit with
      | none => exact Nat.le_add_right _ _
      | some l =>
        show s.clock.now ≤ (awaitSlot (.suspended (some l)) timeoutMs s).2.clock.now
        rw [awaitSlot_suspended]
        by_cases h : l < timeoutMs
        · rw [if_pos h]
          exact Nat.le_add_right _ _
        · rw [if_neg h]
          exact Nat.le_add_right _ _
  · intro mode started s begun ahead
    refine ⟨?_, alike_awaitSlot _ timeoutMs s⟩
    cases mode with
    | sync => rfl
    | async =>
      cases limit with
      | none => rfl
      | some l =>
        show (awaitSlot (.suspended (some l)) timeoutMs s).1 = _
        have soon : (awaitSlot (.suspended (some l)) timeoutMs s).2.clock.now < started + l :=
          ahead l rfl
        rw [awaitSlot_suspended] at soon ⊢
        by_cases h : l < timeoutMs
        · -- Whoever is suspended up to the limit wakes up at the deadline.
          rw [if_pos h, Store.now_wait] at soon
          have : started ≤ s.clock.now := begun
          omega
        · rw [if_neg h]

/-- While the deadline is ahead, nobody is late. -/
theorem isLate_of_ahead {mode : Mode} {started : Nat} {limit : Option Nat} {s : Store}
    (ahead : Ahead started limit ((of mode started limit).isLate s).2) :
    ((of mode started limit).isLate s).1 = false := by
  cases mode with
  | sync =>
    cases limit with
    | none => rfl
    | some l =>
      have soon : s.readClock.2.clock.now < started + l := ahead l rfl
      rw [← s.readClock_fst] at soon
      exact decide_eq_false (Nat.not_le.2 soon)
  | async => rfl

theorem isLate_lockstep (limit : Option Nat) :
    Lockstep limit Eq fun mode started (s : Store) => (of mode started limit).isLate s := by
  refine .of_wait (fun _ => false) ?_ (fun _ _ _ => rfl) ?_
  · intro mode started s
    cases mode with
    | sync =>
      cases limit with
      | none => exact Nat.le_refl _
      | some l => exact s.now_le_readClock
    | async => exact Nat.le_refl _
  · intro mode started s _ ahead
    exact ⟨isLate_of_ahead ahead, alike_isLate _ s⟩

/-- A call that ends in time keeps its result in both modes. -/
theorem settle_lockstep {α : Type} (result : TransportResult α) (limit : Option Nat) :
    Lockstep limit Eq fun mode started (s : Store) =>
      (of mode started limit).settle limit result s := by
  cases limit with
  | none => exact .const _
  | some l =>
    unfold settle
    by_cases h : result.isTimeout
    · simp only [h, if_true]
      exact .const _
    · simp only [h]
      exact (isLate_lockstep (some l)).bind
        (G := fun late _ _ s => (if late then .error (.timeout l) else result, s))
        fun _ => .const _

end Patience

end DocStore
