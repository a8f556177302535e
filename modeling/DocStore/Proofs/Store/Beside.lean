import DocStore.Proofs.Store.CursorTable

/-!
# Stores that differ in a cursor

A cursor is seen by those who read it or close it, and by nobody else: in a store where it has been
read further, or is closed, all other calls have the same outcomes, and leave a store that differs in
that cursor only (`Store.Near`, `Store.Spares`).
-/

namespace DocStore.Store

/-- The store with other cursors. -/
def holding (s : Store) (cursors : Dictionary Nat CursorState) : Store := { s with cursors }

/-- Stores that differ in a cursor, if at all. -/
def Near (c : Nat) (s t : Store) : Prop :=
  ∃ cursors, t = s.holding cursors ∧ ∀ id, id ≠ c → cursors.get? id = s.cursors.get? id

/-- The store at another time. -/
def atTime (s : Store) (clock : Clock) : Store := { s with clock }

/-- Stores that differ in a cursor and in their clocks, if at all. -/
def Beside (c : Nat) (s t : Store) : Prop := ∀ clock, Near c (s.atTime clock) (t.atTime clock)

section

variable {c id : Nat} {s t u : Store}

theorem Near.refl (s : Store) : Near c s s := ⟨s.cursors, rfl, fun _ _ => rfl⟩

theorem Near.symm (h : Near c s t) : Near c t s := by
  obtain ⟨cursors, rfl, same⟩ := h
  exact ⟨s.cursors, rfl, fun id other => (same id other).symm⟩

theorem Near.trans (h : Near c s t) (h' : Near c t u) : Near c s u := by
  obtain ⟨cursors, rfl, same⟩ := h
  obtain ⟨cursors', rfl, same'⟩ := h'
  exact ⟨cursors', rfl, fun id other => (same' id other).trans (same id other)⟩

theorem Near.get? (h : Near c s t) (other : id ≠ c) : t.cursors.get? id = s.cursors.get? id := by
  obtain ⟨cursors, rfl, same⟩ := h
  exact same id other

/-- Stores that differ at one cursor at most do so under every clock. -/
theorem Near.beside (h : Near c s t) : Beside c s t := by
  obtain ⟨cursors, rfl, same⟩ := h
  exact fun _ => ⟨cursors, rfl, same⟩

theorem Beside.refl (s : Store) : Beside c s s := fun _ => .refl _

theorem Beside.symm (h : Beside c s t) : Beside c t s := fun clock => (h clock).symm

theorem Beside.trans (h : Beside c s t) (h' : Beside c t u) : Beside c s u :=
  fun clock => (h clock).trans (h' clock)

/-- Tables that are alike but for a cursor stay so when a cursor is entered in both. -/
theorem get?_insert_alike {d e : Dictionary Nat CursorState}
    (same : ∀ id, id ≠ c → e.get? id = d.get? id) (id : Nat) (state : CursorState) {other : Nat}
    (different : other ≠ c) : (e.insert id state).get? other = (d.insert id state).get? other := by
  by_cases this : other = id
  · rw [this, Dictionary.get?_insert_self, Dictionary.get?_insert_self]
  · rw [Dictionary.get?_insert_of_ne this, Dictionary.get?_insert_of_ne this, same other different]

theorem get?_erase_alike {d e : Dictionary Nat CursorState}
    (same : ∀ id, id ≠ c → e.get? id = d.get? id) (id : Nat) {other : Nat} (different : other ≠ c) :
    (e.erase id).get? other = (d.erase id).get? other := by
  by_cases this : other = id
  · rw [this, Dictionary.get?_erase_self, Dictionary.get?_erase_self]
  · rw [Dictionary.get?_erase_of_ne this, Dictionary.get?_erase_of_ne this, same other different]

/-- Both stores give the next cursor the same number. -/
theorem Near.register (h : Near c s t) (state : CursorState) :
    Near c (s.register state) (t.register state) := by
  obtain ⟨cursors, rfl, same⟩ := h
  exact ⟨cursors.insert s.nextCursor state, rfl, fun _ => get?_insert_alike same s.nextCursor state⟩

/-- To close any cursor leaves the stores apart at one at most. -/
theorem Near.killCursor (h : Near c s t) (id : Nat) : Near c (s.killCursor id) (t.killCursor id) := by
  obtain ⟨cursors, rfl, same⟩ := h
  exact ⟨cursors.erase id, rfl, fun _ => get?_erase_alike same id⟩

/-! ## Those who use the cursor -/

/-- Reading the cursor itself changes no other one. -/
theorem near_nextBatch (s : Store) (c size : Nat) : Near c s (s.nextBatch c size).2 := by
  obtain ⟨cursors, same⟩ := s.nextBatch_frame c size
  refine ⟨cursors, same, fun id other => ?_⟩
  have others := s.get?_nextBatch_of_ne other size
  rw [same] at others
  exact others

theorem near_killCursor (s : Store) (c : Nat) : Near c s (s.killCursor c) :=
  ⟨s.cursors.erase c, rfl, fun _ other => Dictionary.get?_erase_of_ne other s.cursors⟩

/-- All that a delay does is to let time pass. -/
theorem atTime_delay (s : Store) (p : Patience) (clock : Clock) :
    (s.delay p).2.atTime clock = s.atTime clock := by
  unfold delay
  split
  · rfl
  · split
    · rfl
    · dsimp only
      split <;> rfl
    · split <;> rfl
    · rfl

theorem atTime_awaitChange (s : Store) (p : Patience) (clock : Clock) :
    (s.awaitChange p).2.atTime clock = s.atTime clock := by
  unfold awaitChange
  split <;> rfl

theorem beside_delay (s : Store) (p : Patience) : Beside c s (s.delay p).2 := by
  intro clock
  rw [atTime_delay]
  exact .refl _

theorem beside_awaitChange (s : Store) (p : Patience) : Beside c s (s.awaitChange p).2 := by
  intro clock
  rw [atTime_awaitChange]
  exact .refl _

end

/-! ## Those who do not -/

/-- An operation has the same outcome whatever becomes of a cursor. -/
def Spares (c : Nat) {α : Type} (f : Store → α × Store) : Prop :=
  ∀ s t, Near c s t → (f s).1 = (f t).1 ∧ Near c (f s).2 (f t).2

section

variable {c : Nat} {α : Type} {f : Store → α × Store}

/-- What neither looks at the cursors nor moves them spares each of them. -/
theorem spares_of_holding
    (h : ∀ s cursors, f (s.holding cursors) = ((f s).1, (f s).2.holding cursors)) : Spares c f := by
  rintro s _ ⟨cursors, rfl, same⟩
  have own : (f s).2.cursors = s.cursors := congrArg (fun r => r.2.cursors) (h s s.cursors)
  rw [h s cursors]
  exact ⟨rfl, cursors, rfl, fun id other => (same id other).trans (by rw [own])⟩

/-- What sees no cursor spares every one. -/
theorem Blind.spares (h : Blind f) : Spares c f :=
  spares_of_holding fun s cursors => by
    have own := h s s.clock s.blockingConnections s.asyncConnections s.cursors
    have clock : (f s).2.clock = s.clock := congrArg (fun r => r.2.clock) own
    have blocking : (f s).2.blockingConnections = s.blockingConnections :=
      congrArg (fun r => r.2.blockingConnections) own
    have async : (f s).2.asyncConnections = s.asyncConnections :=
      congrArg (fun r => r.2.asyncConnections) own
    have left : (f s).2.aside s.clock s.blockingConnections s.asyncConnections cursors =
        (f s).2.holding cursors := by
      rw [← clock, ← blocking, ← async]
      rfl
    exact (h s _ _ _ cursors).trans (congrArg (Prod.mk (f s).1) left)

/-- Whether a delay fails does not depend on the cursors. -/
theorem spares_delay (p : Patience) : Spares c fun s => s.delay p := by
  refine spares_of_holding fun s cursors => ?_
  cases reached : s.unreachable with
  | true => simp [delay, holding, reached]
  | false =>
    cases travel : s.latency with
    | none => simp [delay, holding, reached, travel]
    | some latency =>
      rcases p with (_ | deadline) | (_ | limit)
      · simp [delay, holding, reached, travel, wait]
      · simp only [delay, holding, reached, travel, readClock, wait, Bool.false_eq_true, if_false]
        split <;> rfl
      · simp [delay, holding, reached, travel, wait]
      · simp only [delay, holding, reached, travel, wait, Bool.false_eq_true, if_false]
        split <;> rfl

theorem spares_awaitChange (p : Patience) : Spares c fun s => s.awaitChange p := by
  refine spares_of_holding fun s cursors => ?_
  rcases p with (_ | deadline) | (_ | limit) <;> rfl

theorem spares_connect (mode : Mode) : Spares c fun s => s.connect mode := by
  refine spares_of_holding fun s cursors => ?_
  have sameUnreachable : (s.holding cursors).unreachable = s.unreachable := rfl
  simp only [connect, sameUnreachable]
  split
  · rfl
  · cases mode <;> rfl

end

section

variable {c id : Nat} {s t : Store}

/-- A read of a cursor that is the same in both stores. -/
theorem Near.nextBatch (h : Near c s t) (same : t.cursors.get? id = s.cursors.get? id) (size : Nat) :
    (s.nextBatch id size).1 = (t.nextBatch id size).1 ∧
      Near c (s.nextBatch id size).2 (t.nextBatch id size).2 := by
  obtain ⟨cursors, rfl, alike⟩ := h
  have here : (s.holding cursors).cursors.get? id = s.cursors.get? id := same
  have events : (s.holding cursors).events = s.events := rfl
  unfold Store.nextBatch
  rw [here, events]
  cases s.cursors.get? id with
  | none => exact ⟨rfl, cursors, rfl, alike⟩
  | some state =>
    cases state with
    | buffered docs =>
      dsimp only
      split
      · exact ⟨rfl, cursors.erase id, rfl, fun _ => get?_erase_alike alike id⟩
      · exact ⟨rfl, cursors.insert id _, rfl, fun _ => get?_insert_alike alike id _⟩
    | tailing collection pipeline position =>
      dsimp only
      obtain ⟨n, result⟩ := follow collection pipeline (max size 1) [] (s.events.drop position)
      have moved := fun other => @get?_insert_alike c _ _ alike id
        (.tailing collection pipeline (position + n)) other
      rcases result with refusal | (_ | ⟨doc, docs⟩)
      · exact ⟨rfl, _, rfl, moved⟩
      · exact ⟨rfl, _, rfl, moved⟩
      · exact ⟨rfl, _, rfl, moved⟩

/-- Reading one cursor spares each other one. -/
theorem spares_nextBatch (other : id ≠ c) (size : Nat) : Spares c fun s => s.nextBatch id size :=
  fun _ _ h => h.nextBatch (h.get? other) size

/-- To open a cursor is to read one that is new, also where its number is the one of the cursor in
which the stores differ. -/
theorem spares_openCursor (command : Command) (size : Nat) :
    Spares c fun s => s.openCursor command size := by
  intro s t h
  have arrived := (blind_arrive.spares (c := c)) s t h
  dsimp only
  rw [openCursor_eq, openCursor_eq]
  revert arrived
  obtain ⟨fault, s⟩ := s.arrive
  obtain ⟨_, t⟩ := t.arrive
  rintro ⟨⟨⟩, h⟩
  cases fault with
  | some fault => exact ⟨rfl, h⟩
  | none =>
    have state : t.cursorState command = s.cursorState command := by
      obtain ⟨_, rfl, -⟩ := h
      cases command <;> rfl
    have next : t.nextCursor = s.nextCursor := by
      obtain ⟨_, rfl, -⟩ := h
      rfl
    dsimp only
    rw [state, next]
    cases s.cursorState command with
    | error refusal => exact ⟨rfl, h⟩
    | ok state =>
      have entered : Near c (s.register state) (t.register state) := h.register state
      have same : (t.register state).cursors.get? s.nextCursor =
          (s.register state).cursors.get? s.nextCursor := by
        unfold register
        rw [next, Dictionary.get?_insert_self, Dictionary.get?_insert_self]
      obtain ⟨outcome, left⟩ := entered.nextBatch same size
      exact ⟨congrArg (Except.map _) outcome, left⟩

end

end DocStore.Store
