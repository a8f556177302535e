import DocStore.Proofs.Client.Slots

/-!
# Calls that are given up

A call is given up if it times out, or if its caller stops waiting for it while it is pending; its
connection is to be reset then, since the answer may still be on its way. The guard has one mark for
that, which each call writes anew when it ends. So a connection that comes back is reset exactly if
the last call on it was given up, and a call that was given up before is forgotten once a later one
is answered (`Pool.forgotten_iff`). Cursors make no later call, and keep the mark until they are
dropped (`Session.given_up_kept`).
-/

namespace DocStore

/-! ## The life of a guard -/

namespace Guard

variable {κ σ : Type}

/-- What happens while a guard is alive. -/
inductive Event (κ σ : Type) : Type 1 where
  /-- A call is made, with whatever outcome. -/
  | call {α : Type} (f : κ → σ → TransportResult α × κ × σ)
  /-- A call is begun, and its caller stops waiting while it is pending. -/
  | abandon (f : κ → σ → κ × σ)
  /-- A cursor is killed, which is not a call. -/
  | kill (f : κ → σ → κ × σ)
  /-- What the connection leads to changes. -/
  | happen (f : σ → σ)

/-- How a call ends. -/
inductive Ending where
  /-- With a reply, or with a failure that is not a timeout. -/
  | answered
  | timedOut
  | abandoned
  deriving DecidableEq

/-- Whether the answer to a call may still be on its way. -/
def Ending.isGivenUp : Ending → Bool
  | .answered => false
  | .timedOut | .abandoned => true

section

variable {l : List Ending}

/-- Whether there were calls and the last one was given up. -/
def lastGivenUp (l : List Ending) : Bool := (l.getLast?.map Ending.isGivenUp).getD false

theorem lastGivenUp_append_singleton (earlier : List Ending) (last : Ending) :
    lastGivenUp (earlier ++ [last]) = last.isGivenUp := by
  rw [lastGivenUp, List.getLast?_concat]
  rfl

theorem lastGivenUp_iff :
    lastGivenUp l = true ↔ ∃ earlier last, l = earlier ++ [last] ∧ last.isGivenUp := by
  constructor
  · intro givenUp
    rcases List.eq_nil_or_concat l with rfl | ⟨earlier, last, rfl⟩
    · cases givenUp
    · rw [List.concat_eq_append, lastGivenUp_append_singleton] at givenUp
      exact ⟨earlier, last, List.concat_eq_append .., givenUp⟩
  · rintro ⟨earlier, last, rfl, givenUp⟩
    rw [lastGivenUp_append_singleton]
    exact givenUp

/-- Some call was given up, and the last one was not. -/
theorem givenUp_before_iff : (∃ e ∈ l, e.isGivenUp) ∧ lastGivenUp l = false ↔
    ∃ earlier, l = earlier ++ [.answered] ∧ ∃ e ∈ earlier, e.isGivenUp := by
  constructor
  · rintro ⟨⟨e, mem, givenUp⟩, ended⟩
    rcases List.eq_nil_or_concat l with rfl | ⟨earlier, last, rfl⟩
    · cases mem
    · rw [List.concat_eq_append] at mem ended ⊢
      rw [lastGivenUp_append_singleton] at ended
      obtain rfl : last = .answered := by
        cases last with
        | answered => rfl
        | timedOut | abandoned => cases ended
      refine ⟨earlier, rfl, e, ?_, givenUp⟩
      rcases List.mem_append.1 mem with before | this
      · exact before
      · cases List.mem_singleton.1 this
        cases givenUp
  · rintro ⟨earlier, rfl, e, mem, givenUp⟩
    exact ⟨⟨e, List.mem_append_left _ mem, givenUp⟩, lastGivenUp_append_singleton ..⟩

end

/-- A guard, with what its connection leads to, after an event. -/
def step (x : Guard κ × σ) : Event κ σ → Guard κ × σ
  | .call f => (x.1.call f x.2).2
  | .abandon f =>
    let (connection, s) := f x.1.begin.connection x.2
    ({ x.1.begin with connection }, s)
  | .kill f =>
    let (connection, s) := f x.1.connection x.2
    ({ x.1 with connection }, s)
  | .happen f => (x.1, f x.2)

/-- The guard after one event and another. -/
def run (x : Guard κ × σ) (events : List (Event κ σ)) : Guard κ × σ := events.foldl step x

/-- How the call of an event ends, if the event is a call. -/
def ending? (x : Guard κ × σ) : Event κ σ → Option Ending
  | .call f => some (if (x.1.call f x.2).1.isTimeout then .timedOut else .answered)
  | .abandon _ => some .abandoned
  | .kill _ | .happen _ => none

/-- How the calls on a guard end, the earliest first. -/
def endings : Guard κ × σ → List (Event κ σ) → List Ending
  | _, [] => []
  | x, e :: rest => (ending? x e).toList ++ endings (step x e) rest

/-- The mark says how the call ended, if there was one, and is left alone otherwise. -/
theorem dirty_step (x : Guard κ × σ) (e : Event κ σ) :
    (step x e).1.dirty = ((ending? x e).map Ending.isGivenUp).getD x.1.dirty := by
  cases e with
  | call f =>
    show (x.1.call f x.2).1.isTimeout = Ending.isGivenUp (if _ then .timedOut else .answered)
    split
    · assumption
    · exact eq_false_of_ne_true ‹_›
  | abandon f => rfl
  | kill f => rfl
  | happen f => rfl

/-- **The mark says how the last call ended.** -/
theorem dirty_run (x : Guard κ × σ) (events : List (Event κ σ)) : (run x events).1.dirty =
    ((endings x events).getLast?.map Ending.isGivenUp).getD x.1.dirty := by
  induction events generalizing x with
  | nil => rfl
  | cons e rest ih =>
    show (run (step x e) rest).1.dirty = _
    rw [ih, dirty_step, endings, List.getLast?_append]
    cases (endings (step x e) rest).getLast? with
    | some last => rfl
    | none => cases ending? x e <;> rfl

end Guard

/-! ## Coming back to the pool -/

namespace Pool

open Guard (Event Ending)

variable {κ σ : Type} {connector : Connector κ σ}

/-- What is done with a guard that has a place among others. -/
def Use.ofEvent (i : Nat) : Event κ σ → Use κ σ
  | .call f => .call i f
  | .abandon f => .abandon i f
  | .kill f => .kill i f
  | .happen f => .happen f

/-- In the traffic of a pool, the same happens to a guard. -/
theorem Traffic.step_ofEvent {t : Traffic κ σ} {i : Nat} {g : Guard κ}
    (here : t.guards[i]? = some g) (e : Event κ σ) : t.step connector (.ofEvent i e) =
      { t with guards := t.guards.set i (Guard.step (g, t.state) e).1
               state := (Guard.step (g, t.state) e).2 } := by
  cases e with
  | happen f =>
    obtain ⟨live, rfl⟩ := List.getElem?_eq_some_iff.1 here
    show _ = { t with guards := t.guards.set i t.guards[i], state := f t.state }
    rw [List.set_getElem_self]
    rfl
  | call f | abandon f | kill f =>
    unfold Use.ofEvent Traffic.step Traffic.onGuard
    simp only [here]
    rfl

/-- A guard goes through its events in the traffic of a pool as it does by itself. -/
theorem Traffic.run_ofEvent {t : Traffic κ σ} {i : Nat} {g : Guard κ}
    (here : t.guards[i]? = some g) (events : List (Event κ σ)) :
    t.run connector (events.map (.ofEvent i)) =
      { t with guards := t.guards.set i (Guard.run (g, t.state) events).1
               state := (Guard.run (g, t.state) events).2 } := by
  induction events generalizing t g with
  | nil =>
    obtain ⟨live, rfl⟩ := List.getElem?_eq_some_iff.1 here
    show t = { t with guards := t.guards.set i t.guards[i] }
    rw [List.set_getElem_self]
  | cons e rest ih =>
    have live := (List.getElem?_eq_some_iff.1 here).1
    show (t.step connector (.ofEvent i e)).run connector (rest.map (.ofEvent i)) = _
    rw [Traffic.step_ofEvent here, ih (List.getElem?_set_self live), List.set_set]
    rfl

/-- Takes a connection back as it is. -/
def shelve (connector : Connector κ σ) (p : Pool κ) (k : κ × σ) : Pool κ × σ :=
  let p := p.giveSlot
  if connector.isHealthy k.1 k.2 && !p.closed then ({ p with idle := k.1 :: p.idle }, k.2)
  else (p, k.2)

theorem resets_shelve (p : Pool κ) (k : κ × σ) : (p.shelve connector k).1.resets = p.resets := by
  unfold shelve
  dsimp only
  split <;> rfl

theorem release_of_clean {g : Guard κ} (clean : g.dirty = false) (p : Pool κ) (s : σ) :
    p.release connector g s = p.shelve connector (g.connection, s) := by
  rw [release, Pool.clean, clean]
  rfl

/-- A connection with the mark is reset before it is taken back. -/
theorem release_of_dirty {g : Guard κ} (dirty : g.dirty = true) (p : Pool κ) (s : σ) :
    p.release connector g s =
      shelve connector { p with resets := p.resets + 1 } (connector.reset g.connection s) := by
  rw [release, Pool.clean, dirty]
  rfl

/-- A connection that comes back is reset if its guard has the mark, and only then. -/
theorem resets_release (p : Pool κ) (g : Guard κ) (s : σ) :
    (p.release connector g s).1.resets = p.resets + g.dirty.toNat := by
  cases mark : g.dirty with
  | false => rw [release_of_clean mark, resets_shelve, Bool.toNat_false, Nat.add_zero]
  | true => rw [release_of_dirty mark, resets_shelve, Bool.toNat_true]

theorem release_eq_shelve_iff {p : Pool κ} {g : Guard κ} {s : σ} :
    p.release connector g s = p.shelve connector (g.connection, s) ↔ g.dirty = false := by
  constructor
  · intro same
    have counted := congrArg (·.1.resets) same
    rw [resets_shelve, resets_release, Nat.add_eq_left, Bool.toNat_eq_zero] at counted
    exact counted
  · intro clean
    exact release_of_clean clean p s

/-- Connections are handed out without the mark. -/
theorem dirty_of_acquire {p p' : Pool κ} {s s' : σ} {g : Guard κ}
    (handed : p.acquire connector s = (.ok g, p', s')) : g.dirty = false := by
  have ways := acquires connector p s
  rw [handed] at ways
  cases ways <;> rfl

/-- **A call that was given up is forgotten exactly if the last call was answered.** Whatever is
done with a connection from the moment at which a pool hands it out, and with the pool in the
meantime: although a call was given up, the connection comes back as it is, without a reset, if and
only if another call was made later, and the last one was answered. If the last call itself was
given up, the connection is reset before it can become idle. -/
theorem forgotten_iff {p p' : Pool κ} {s s' : σ} {g : Guard κ}
    (handed : p.acquire connector s = (.ok g, p', s')) (events : List (Event κ σ)) (q : Pool κ) :
    let endings := Guard.endings (g, s') events
    let lived := Guard.run (g, s') events
    ((∃ e ∈ endings, e.isGivenUp) ∧
        q.release connector lived.1 lived.2 = q.shelve connector (lived.1.connection, lived.2) ↔
      ∃ earlier, endings = earlier ++ [.answered] ∧ ∃ e ∈ earlier, e.isGivenUp) ∧
    ((∃ earlier last, endings = earlier ++ [last] ∧ last.isGivenUp) →
      q.release connector lived.1 lived.2 = shelve connector { q with resets := q.resets + 1 }
        (connector.reset lived.1.connection lived.2)) := by
  intro endings lived
  have mark : lived.1.dirty = Guard.lastGivenUp endings := by
    have mark := Guard.dirty_run (g, s') events
    rw [dirty_of_acquire handed] at mark
    exact mark
  rw [release_eq_shelve_iff, mark, Guard.givenUp_before_iff, ← Guard.lastGivenUp_iff]
  exact ⟨Iff.rfl, fun givenUp => release_of_dirty (mark.trans givenUp) q lived.2⟩

/-- **In the traffic of a pool it is the same**, whichever other guards are alive: a guard that is
handed out, used and dropped costs a reset if the last call on it was given up, and none otherwise. -/
theorem Traffic.resets_dropped {t : Traffic κ σ} {p : Pool κ} {s : σ} {g : Guard κ}
    (handed : t.pool.acquire connector t.state = (.ok g, p, s)) (events : List (Event κ σ)) :
    let i := t.guards.length
    (t.run connector (.acquire :: events.map (.ofEvent i) ++ [.drop i])).pool.resets =
      t.pool.resets + (Guard.lastGivenUp (Guard.endings (g, s) events)).toNat := by
  intro i
  have resets : p.resets = t.pool.resets := by
    have ways := acquires connector t.pool t.state
    rw [handed] at ways
    cases ways <;> rfl
  have mark := Guard.dirty_run (g, s) events
  rw [dirty_of_acquire handed] at mark
  let u : Traffic κ σ := ⟨p, t.guards ++ [g], s⟩
  have taken : t.step connector .acquire = u := by
    rw [Traffic.step, handed]
  have here : u.guards[i]? = some g := List.getElem?_concat_length
  have after : t.run connector (.acquire :: events.map (.ofEvent i) ++ [.drop i]) =
      (u.run connector (events.map (.ofEvent i))).step connector (.drop i) := by
    rw [← taken]
    simp [Traffic.run]
  have there : (u.guards.set i (Guard.run (g, u.state) events).1)[i]? =
      some (Guard.run (g, u.state) events).1 :=
    List.getElem?_set_self (List.getElem?_eq_some_iff.1 here).1
  rw [after, Traffic.run_ofEvent here]
  simp only [Traffic.step, there]
  rw [resets_release, mark, resets]
  rfl

/-- Connections that count the answers that are still on their way; a reset discards them. -/
def counting : Connector Nat Unit where
  connect s := (.ok 0, s)
  reset _ s := (0, s)
  isHealthy _ _ := true

/-- A call whose answer comes too late, and one whose answer comes at once. -/
def lateThenAnswered : List (Event Nat Unit) :=
  [.call fun n s => ((.error (.timeout 10) : TransportResult Nat), n + 1, s),
    .call fun n s => ((.ok n : TransportResult Nat), n, s)]

theorem forgotten_iff_late :
    let p : Pool Nat := { maxSize := 1, acquireTimeoutMs := 100 }
    let lived := Guard.run ({ connection := 0 }, ()) lateThenAnswered
    (∃ p', p.acquire counting () = (.ok { connection := 0 }, p', ())) ∧
      p.release counting lived.1 lived.2 = p.shelve counting (1, ()) := by
  intro p lived
  have handed : p.acquire counting () = (.ok { connection := 0 }, _, ()) := rfl
  exact ⟨⟨_, handed⟩,
    ((forgotten_iff handed lateThenAnswered p).1.2 ⟨[.timedOut], rfl, .timedOut, by decide, rfl⟩).2⟩

/-- The connection is idle, no reset was made, and the answer to the first call is still on its
way. -/
theorem late_answer_forgotten :
    let t := (Traffic.start 1 100 ()).run counting
      (.acquire :: lateThenAnswered.map (.ofEvent 0) ++ [.drop 0])
    Guard.endings ({ connection := 0 }, ()) lateThenAnswered = [.timedOut, .answered] ∧
      t.pool.idle = [1] ∧ t.pool.resets = 0 :=
  ⟨rfl, rfl, rfl⟩

-- Had the second call not been made, the connection would be idle after a reset.
example : ((Traffic.start 1 100 ()).run counting
    (.acquire :: (lateThenAnswered.take 1).map (.ofEvent 0) ++ [.drop 0])).pool.resets = 1 := rfl

end Pool

/-! ## Cursors -/

namespace Cursor

variable {cur cur' cur'' : Cursor} {c : Client}

/-- A cursor fetches nothing once a call on its connection was given up. -/
def Cautious (cur : Cursor) : Prop := cur.guard.dirty = true → cur.isDone = true

/-- A cursor was read: it makes no call once one was given up, and made none if one was given up
before. -/
structure KeepsMark (cur cur' : Cursor) : Prop where
  cautious : cur'.Cautious
  kept : cur.guard.dirty = true → cur'.guard = cur.guard

theorem KeepsMark.trans (h : KeepsMark cur cur') (h' : KeepsMark cur' cur'') :
    KeepsMark cur cur'' := by
  refine ⟨h'.cautious, fun dirty => ?_⟩
  have same := h.kept dirty
  rw [← same] at dirty ⊢
  exact h'.kept dirty

theorem Cautious.refl (h : cur.Cautious) : KeepsMark cur cur := ⟨h, fun _ => rfl⟩

/-- A fetch that times out is the last one. -/
theorem cautious_arrived {result : TransportResult Batch}
    (mark : cur.guard.dirty = result.isTimeout) (late : Bool) :
    (cur.arrived result late).2.Cautious := by
  unfold arrived
  cases result with
  | error e => cases e <;> cases cur.limit <;> exact fun _ => rfl
  | ok batch =>
    intro dirty
    cases late <;> cases mark.symm.trans dirty

theorem cautious_fetch (cur : Cursor) (c : Client) : (cur.fetch c).2.1.Cautious := by
  have gathered : (regroup (cur.fetch c)).1.2.Cautious := by
    rw [fetch_eq]
    exact cautious_arrived rfl _
  exact gathered

/-- A cursor that is not done may fetch: no call on its connection was given up. -/
theorem Cautious.fetch (h : cur.Cautious) (goesOn : cur.isDone = false) (c : Client) :
    KeepsMark cur (cur.fetch c).2.1 := by
  refine ⟨cautious_fetch cur c, fun dirty => ?_⟩
  rw [h dirty] at goesOn
  cases goesOn

theorem Cautious.next (h : cur.Cautious) (c : Client) : KeepsMark cur (cur.next c).2.1 := by
  unfold Cursor.next
  split
  · exact ⟨h, fun _ => rfl⟩
  · split
    · exact h.refl
    · rename_i goesOn
      have fetched := h.fetch (eq_false_of_ne_true goesOn) c
      revert fetched
      obtain ⟨_ | _, cur', c'⟩ := cur.fetch c
      · exact fun fetched => fetched
      · intro fetched
        dsimp only at fetched ⊢
        split
        · exact ⟨fetched.cautious, fetched.kept⟩
        · exact fetched

/-- A cursor that reads on keeps the mark of a call that was given up. -/
theorem Cautious.take (h : cur.Cautious) (n : Nat) (c : Client) :
    KeepsMark cur (cur.take n c).2.1 := by
  induction n generalizing cur c with
  | zero => exact h.refl
  | succ n ih =>
    rw [take_succ]
    have first := h.next c
    exact first.trans (ih first.cautious _)

theorem Cautious.readOut (h : cur.Cautious) (n : Nat) (c : Client) :
    KeepsMark cur (cur.readOut n c).2.1 := by
  induction n generalizing cur c with
  | zero => exact ⟨h, fun _ => rfl⟩
  | succ n ih =>
    have emptied : KeepsMark cur cur.emptied := ⟨h, fun _ => rfl⟩
    rw [readOut_succ]
    split
    · exact emptied
    · rename_i goesOn
      have fetched := emptied.trans (emptied.cautious.fetch (eq_false_of_ne_true goesOn) c)
      revert fetched
      obtain ⟨_ | _, cur', c'⟩ := cur.emptied.fetch c
      · exact fun fetched => fetched
      · exact fun fetched => fetched.trans (ih fetched.cautious _)

theorem dirty_kill (g : Guard Connection) (id : Nat) (s : Store) :
    (g.kill id s).1.dirty = g.dirty := by
  unfold Guard.kill
  split <;> rfl

/-- The connection of a cursor that is dropped is reset if its last call was given up. -/
theorem resets_drop (cur : Cursor) (c : Client) : ((cur.drop c).pool cur.mode).resets =
    (c.pool cur.mode).resets + cur.guard.dirty.toNat := by
  rw [← dirty_kill cur.guard cur.id c.store, ← c.pool_withStore (cur.guard.kill cur.id c.store).2,
    ← Pool.resets_release]
  unfold drop Client.release
  rw [Client.pool_withPool, if_pos rfl]

theorem Cautious.resets_toList (h : cur.Cautious) (dirty : cur.guard.dirty = true) (c : Client) :
    ((cur.toList c).2.pool cur.mode).resets = (c.pool cur.mode).resets + 1 := by
  unfold toList
  generalize c.store.pending cur.id + 1 = n
  have read := readOut_reads n cur c
  have kept := (h.readOut n c).kept dirty
  have dropped := resets_drop (cur.readOut n c).2.1 (cur.readOut n c).2.2
  rw [kept, dirty, read.mode, read.pool] at dropped
  exact dropped

end Cursor

namespace Client

/-- The connection of a cursor is the one that its first batch came over. -/
theorem guard_of_handOver {c : Client} {call : Call} {g : Guard Connection} {batch : Batch}
    {cur : Cursor} (opened : (c.handOver call g batch).1 = .ok cur) : cur.guard = g := by
  rw [handOver_eq] at opened
  unfold handOverBy deliver at opened
  split at opened
  · cases opened
  · split at opened
    · cases opened
    · cases opened
      rfl

/-- A cursor is opened by a call that was answered. -/
theorem cautious_of_openCursor {c : Client} {mode : Mode} {command : Command} {limit : Option Nat}
    {cur : Cursor} (opened : (c.openCursor mode command limit).1 = .ok cur) : cur.Cautious := by
  rw [openCursor_eq] at opened
  unfold establish connected at opened
  dsimp only at opened
  split at opened
  · cases opened
  · rename_i g _
    unfold openThrough received onStore regroup at opened
    dsimp only at opened
    split at opened
    · cases opened
    · rename_i batch answered
      intro dirty
      rw [guard_of_handOver opened] at dirty
      have mark := congrArg TransportResult.isTimeout answered
      cases mark.symm.trans dirty

end Client

namespace Session

/-- The cursors of a session make no call on a connection once one was given up. -/
def Cautious (s : Session) : Prop := ∀ name cur, s.cursors.get? name = some cur → cur.Cautious

section

variable {s s' : Session} {name : String}

theorem Cautious.of_cursors (h : s.Cautious) (same : s'.cursors = s.cursors) : s'.Cautious := by
  intro name cur found
  rw [same] at found
  exact h name cur found

theorem Cautious.erase (h : s.Cautious) (name : String) (c : Client) :
    (Session.mk c (s.cursors.erase name)).Cautious := by
  intro other cur found
  by_cases this : other = name
  · subst this
    rw [Dictionary.get?_erase_self] at found
    cases found
  · rw [Dictionary.get?_erase_of_ne this] at found
    exact h other cur found

theorem Cautious.insert (h : s.Cautious) {cur : Cursor} (cautious : cur.Cautious) (name : String)
    (c : Client) : (Session.mk c (s.cursors.insert name cur)).Cautious := by
  intro other cur' found
  by_cases this : other = name
  · subst this
    rw [Dictionary.get?_insert_self] at found
    cases found
    exact cautious
  · rw [Dictionary.get?_insert_of_ne this] at found
    exact h other cur' found

theorem Cautious.dropCursor (h : s.Cautious) (name : String) : (s.dropCursor name).Cautious := by
  unfold Session.dropCursor
  cases s.cursors.get? name with
  | none => exact h
  | some cur => exact h.erase name _

theorem Cautious.openCursor (h : s.Cautious) (name : String) (mode : Mode) (draft : Draft)
    (limit : Option Nat) : (s.openCursor name mode draft limit).2.Cautious := by
  unfold Session.openCursor
  cases drawn : s.draw draft with
  | error e => exact h
  | ok made =>
    obtain ⟨command, t⟩ := made
    have ready : t.Cautious := by
      obtain ⟨_, rfl⟩ := draw_eq drawn
      exact h.of_cursors rfl
    dsimp only
    cases opened : t.client.openCursor mode command (t.limitOf limit) with
    | mk result c' =>
      cases result with
      | error response => exact ready.of_cursors rfl
      | ok cur =>
        have cautious : cur.Cautious := Client.cautious_of_openCursor (congrArg Prod.fst opened)
        have kept : ({ t with client := c' } : Session).Cautious := ready.of_cursors rfl
        exact (kept.dropCursor name).insert cautious name _

theorem Cautious.step (h : s.Cautious) (a : Action) : (s.step a).2.Cautious := by
  cases a with
  | run mode draft limit single =>
    show (s.run mode draft limit single).2.Cautious
    unfold Session.run
    cases drawn : s.draw draft with
    | error e => exact h
    | ok made =>
      obtain ⟨command, t⟩ := made
      obtain ⟨_, rfl⟩ := draw_eq drawn
      exact h.of_cursors rfl
  | openCursor name mode draft limit => exact h.openCursor name mode draft limit
  | take name n =>
    show (s.take name n).2.Cautious
    unfold Session.take
    cases found : s.cursors.get? name with
    | none => exact h
    | some cur => exact h.insert ((h name cur found).take n s.client).cautious name _
  | readOut name =>
    show (s.readOut name).2.Cautious
    unfold Session.readOut
    cases s.cursors.get? name with
    | none => exact h
    | some cur => exact h.erase name _
  | drop name =>
    rw [step_drop]
    exact h.dropCursor name
  | close => exact h.of_cursors rfl
  | adjust adjustment => exact h.of_cursors rfl

theorem Cautious.afterAll (h : s.Cautious) (actions : List Action) :
    (s.afterAll actions).Cautious := by
  induction actions generalizing s with
  | nil => exact h
  | cons a rest ih => exact ih (h.step a)

end

/-- **The cursors of a session forget no call that was given up.** Whatever a session does: once a
call of a cursor was given up, reading leaves its connection alone, and the connection is reset when
the cursor is dropped, or read to its end. -/
theorem given_up_kept (c : Client) (actions : List Action) :
    let s := (Session.mk c []).afterAll actions
    ∀ name cur, s.cursors.get? name = some cur → cur.guard.dirty = true →
      (∀ n, (cur.take n s.client).2.1.guard = cur.guard) ∧
      ((cur.drop s.client).pool cur.mode).resets = (s.client.pool cur.mode).resets + 1 ∧
      ((cur.toList s.client).2.pool cur.mode).resets = (s.client.pool cur.mode).resets + 1 := by
  intro s name cur found dirty
  have none : (Session.mk c []).Cautious := fun _ _ found => nomatch found
  have cautious : cur.Cautious := none.afterAll actions name cur found
  refine ⟨fun n => (cautious.take n s.client).kept dirty, ?_, cautious.resets_toList dirty s.client⟩
  rw [Cursor.resets_drop, dirty]
  rfl

end Session

end DocStore
