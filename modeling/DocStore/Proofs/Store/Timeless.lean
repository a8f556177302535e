import DocStore.Store.Connection

/-!
# Stores under another clock

The clock of a store and the numbers of its connections are seen by no command: what is carried
out under another clock has the same outcome (`Store.Timeless`). Stores that differ in these only
are `Store.Alike`; the calendar that their events are stamped by is the same in both. Commands that
need no cursor do not see the cursors either (`Store.Blind`).
-/

namespace DocStore.Store

/-- The store under another clock, and with other numbers of connections. -/
def under (s : Store) (clock : Clock) (blocking async : Nat) : Store :=
  { s with clock, blockingConnections := blocking, asyncConnections := async }

/-- Stores that are the same but for their clocks and the numbers of their connections. They have the
same calendar, so that what happens next in both is stamped with the same time. -/
def Alike (s t : Store) : Prop := ∃ clock blocking async, t = s.under clock blocking async

theorem Alike.refl (s : Store) : s.Alike s :=
  ⟨s.clock, s.blockingConnections, s.asyncConnections, rfl⟩

theorem Alike.symm {s t : Store} : s.Alike t → t.Alike s := by
  rintro ⟨clock, blocking, async, rfl⟩
  exact ⟨s.clock, s.blockingConnections, s.asyncConnections, rfl⟩

theorem Alike.trans {s t u : Store} : s.Alike t → t.Alike u → s.Alike u := by
  rintro ⟨_, _, _, rfl⟩ ⟨clock, blocking, async, rfl⟩
  exact ⟨clock, blocking, async, rfl⟩

theorem alike_wait (s : Store) (ms : Nat) : s.Alike (s.wait ms) :=
  ⟨s.clock.wait ms, s.blockingConnections, s.asyncConnections, rfl⟩

theorem alike_readClock (s : Store) : s.Alike s.readClock.2 :=
  ⟨s.clock.read.2, s.blockingConnections, s.asyncConnections, rfl⟩

section

variable (s : Store)

/-! ## Waiting -/

/-- A delay moves the clock and nothing else. -/
theorem alike_delay (p : Patience) : s.Alike (s.delay p).2 := by
  unfold delay
  split
  · exact .refl s
  · split
    · exact .refl s
    · dsimp only
      split
      · exact s.alike_readClock.trans (alike_wait _ _)
      · exact s.alike_readClock.trans (alike_wait _ _)
    · split
      · exact alike_wait s _
      · exact alike_wait s _
    · exact alike_wait s _

/-- So does a wait for changes. -/
theorem alike_awaitChange (p : Patience) : s.Alike (s.awaitChange p).2 := by
  unfold awaitChange
  split
  · exact s.alike_readClock.trans (alike_wait _ _)
  · exact alike_wait s _
  · exact .refl s

/-- A connection that is opened is counted, and that is all the store has of it. -/
theorem alike_connect (mode : Mode) : s.Alike (s.connect mode).2 := by
  unfold connect
  split
  · exact .refl s
  · cases mode with
    | sync => exact ⟨s.clock, s.blockingConnections + 1, s.asyncConnections, rfl⟩
    | async => exact ⟨s.clock, s.blockingConnections, s.asyncConnections + 1, rfl⟩

end

/-- An operation has the same outcome under every clock, and does not move the clock. -/
def Timeless {α : Type} (f : Store → α × Store) : Prop :=
  ∀ s clock blocking async, f (s.under clock blocking async) =
    ((f s).1, (f s).2.under clock blocking async)

section

variable {α : Type} {f : Store → α × Store}

theorem Timeless.clock (h : Timeless f) (s : Store) : (f s).2.clock = s.clock := by
  have e := h s s.clock s.blockingConnections s.asyncConnections
  exact congrArg (fun r => r.2.clock) e

/-- What is timeless does not tell stores apart that are alike. -/
theorem Timeless.alike (h : Timeless f) {s t : Store} :
    s.Alike t → (f s).1 = (f t).1 ∧ (f s).2.Alike (f t).2 := by
  rintro ⟨clock, blocking, async, rfl⟩
  rw [h]
  exact ⟨rfl, clock, blocking, async, rfl⟩

end

/-! ## Commands -/

/-- The store with other cursors, too. -/
def aside (s : Store) (clock : Clock) (blocking async : Nat)
    (cursors : Dictionary Nat CursorState) : Store :=
  { s with clock, blockingConnections := blocking, asyncConnections := async, cursors }

/-- An operation looks neither at the clock, nor at the connections, nor at the cursors, and leaves
them as they are. -/
def Blind {α : Type} (f : Store → α × Store) : Prop :=
  ∀ s clock blocking async cursors, f (s.aside clock blocking async cursors) =
    ((f s).1, (f s).2.aside clock blocking async cursors)

section

variable {α : Type} {f : Store → α × Store}

theorem Blind.cursors (h : Blind f) (s : Store) : (f s).2.cursors = s.cursors := by
  have e := h s s.clock s.blockingConnections s.asyncConnections s.cursors
  exact congrArg (fun r => r.2.cursors) e

/-- What does not see the cursors leaves them alone, so that they need not be replaced. -/
theorem Blind.timeless (h : Blind f) : Timeless f := by
  intro s clock blocking async
  have left : (f s).2.aside clock blocking async s.cursors = (f s).2.under clock blocking async := by
    rw [← h.cursors s]
    rfl
  exact (h s clock blocking async s.cursors).trans (congrArg (Prod.mk (f s).1) left)

end

section

variable (s : Store) (clock : Clock) (blocking async : Nat) (cursors : Dictionary Nat CursorState)

theorem name_aside : (s.aside clock blocking async cursors).name = s.name := rfl

theorem ids_aside : (s.aside clock blocking async cursors).ids = s.ids := rfl

theorem documents_aside : (s.aside clock blocking async cursors).documents = s.documents := rfl

theorem cursors_under : (s.under clock blocking async).cursors = s.cursors := rfl

end

theorem blind_arrive : Blind arrive := by
  intro s clock blocking async cursors
  unfold arrive
  cases h : s.faults <;> simp [aside, h]

/-- The documents of an insertion come from the collection and the supply of identifiers alone. -/
theorem blind_insert (collection : String) (docs : List Json) (ordered : Bool) :
    Blind fun s => s.insert collection docs ordered := by
  intro s clock blocking async cursors
  unfold insert
  simp only [documents_aside, name_aside, ids_aside]
  cases (insertBatch s.name collection (s.documents collection) ordered docs
    { ids := s.ids }).refusal <;> rfl

theorem blind_update (collection : String) (filter changes : Json) (multi : Bool) :
    Blind fun s => s.update collection filter changes multi := by
  intro s clock blocking async cursors
  unfold update
  simp only [documents_aside]
  cases (updateDocuments filter changes multi (s.documents collection)).refusal <;> rfl

theorem blind_delete (collection : String) (filter : Json) (multi : Bool) :
    Blind fun s => s.delete collection filter multi := by
  intro s clock blocking async cursors
  unfold delete
  simp only [documents_aside]
  cases splitMatching filter multi (s.documents collection) <;> rfl

/-- What reads the documents only is blind. -/
theorem blind_answer {α : Type} (reply : α → Reply) (read : Store → Except Refusal α)
    (same : ∀ s clock blocking async cursors, read (s.aside clock blocking async cursors) = read s) :
    Blind fun s => s.answer reply (read s) := by
  intro s clock blocking async cursors
  dsimp only
  rw [same]
  cases read s <;> rfl

/-- No command looks at a cursor, at a connection or at the clock. -/
theorem blind_perform (command : Command) : Blind fun s => s.perform command := by
  cases command with
  | insert collection docs ordered => exact blind_insert collection docs ordered
  | update collection filter changes multi => exact blind_update collection filter changes multi
  | delete collection filter multi => exact blind_delete collection filter multi
  | find collection q => exact blind_answer .documents (·.find collection q) fun _ _ _ _ _ => rfl
  | count collection filter =>
    exact blind_answer .count (·.count collection filter) fun _ _ _ _ _ => rfl
  | distinct collection field filter =>
    exact blind_answer .values (·.distinct collection field filter) fun _ _ _ _ _ => rfl
  | aggregate collection pipeline =>
    exact blind_answer .documents (·.aggregate collection pipeline) fun _ _ _ _ _ => rfl
  | watch collection pipeline =>
    exact blind_answer .documents (fun _ => .error .watchNeedsCursor) fun _ _ _ _ _ => rfl

/-- Neither does a command that meets an injected fault first. -/
theorem blind_execute (command : Command) : Blind fun s => s.execute command := by
  intro s clock blocking async cursors
  unfold execute
  dsimp only
  rw [blind_arrive]
  obtain ⟨fault, s⟩ := s.arrive
  cases fault with
  | some fault => rfl
  | none => exact blind_perform command s clock blocking async cursors

theorem timeless_execute (command : Command) : Timeless fun s => s.execute command :=
  (blind_execute command).timeless

theorem blind_adjust (a : Adjustment) : Blind fun s => ((), s.adjust a) := by
  intro s clock blocking async cursors
  cases a <;> rfl

theorem timeless_adjust (a : Adjustment) : Timeless fun s => ((), s.adjust a) :=
  (blind_adjust a).timeless

/-! ## Cursors -/

/-- A batch is made of what the cursor holds and of the log. -/
theorem timeless_nextBatch (cursor size : Nat) : Timeless fun s => s.nextBatch cursor size := by
  intro s clock blocking async
  unfold nextBatch
  simp only [cursors_under]
  cases s.cursors.get? cursor with
  | none => rfl
  | some state =>
    cases state with
    | buffered docs =>
      dsimp only
      split <;> rfl
    | tailing collection pipeline position =>
      have same : (s.under clock blocking async).events = s.events := rfl
      dsimp only
      rw [same]
      obtain ⟨n, result⟩ := follow collection pipeline (max size 1) [] (s.events.drop position)
      rcases result with refusal | (_ | ⟨doc, docs⟩) <;> rfl

/-- A cursor has the next number and its first batch under every clock. -/
theorem timeless_openCursor (command : Command) (size : Nat) :
    Timeless fun s => s.openCursor command size := by
  intro s clock blocking async
  unfold openCursor
  dsimp only
  rw [blind_arrive.timeless]
  obtain ⟨fault, s⟩ := s.arrive
  cases fault with
  | some fault => rfl
  | none =>
    have same : (s.under clock blocking async).cursorState command = s.cursorState command := by
      cases command <;> rfl
    dsimp only
    rw [same]
    cases s.cursorState command with
    | error refusal => rfl
    | ok state =>
      have first := timeless_nextBatch s.nextCursor size
        { s with cursors := s.cursors.insert s.nextCursor state, nextCursor := s.nextCursor + 1 }
        clock blocking async
      dsimp only [under] at first ⊢
      rw [first]
      obtain ⟨result, s⟩ := nextBatch _ s.nextCursor size
      cases result <;> rfl

end DocStore.Store
