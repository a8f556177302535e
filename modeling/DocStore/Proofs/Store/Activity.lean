import DocStore.Proofs.Store.Accounting
import DocStore.Store.Cursor

/-!
# What happens to a store

Commands are executed, cursors are opened, read and closed, and the surroundings of the store
change, in any order. Only commands write: all else leaves the documents and the log alone, but for
documents that are put into the store from outside. A cursor is changed by those who read or close
it, and by nobody else; the numbers of cursors are given out once.
-/

namespace DocStore.Store

/-- Something that happens to a store. -/
inductive Activity where
  | execute (command : Command)
  | openCursor (command : Command) (size : Nat)
  | nextBatch (cursor size : Nat)
  | killCursor (cursor : Nat)
  | adjust (a : Adjustment)

/-- Something is done to a cursor: it is read or closed. -/
def Activity.Uses (cursor : Nat) : Activity → Prop
  | .nextBatch other _ => other = cursor
  | .killCursor other => other = cursor
  | _ => False

/-- The store after something happened to it. -/
def after (s : Store) : Activity → Store
  | .execute command => (s.execute command).2
  | .openCursor command size => (s.openCursor command size).2
  | .nextBatch cursor size => (s.nextBatch cursor size).2
  | .killCursor cursor => s.killCursor cursor
  | .adjust a => s.adjust a

/-- The store after several things happened to it. -/
def afterAll (s : Store) (activities : List Activity) : Store := activities.foldl after s

/-- Enters a cursor under a new number. -/
def register (s : Store) (state : CursorState) : Store :=
  { s with cursors := s.cursors.insert s.nextCursor state, nextCursor := s.nextCursor + 1 }

/-! ## Steps of the store -/

section

variable (s : Store)

theorem arrive_frame : ∃ commands faults, s.arrive.2 = { s with commands, faults } := by
  unfold arrive
  cases s.faults with
  | nil => exact ⟨s.commands + 1, [], rfl⟩
  | cons fault later => exact ⟨s.commands + 1, later, rfl⟩

/-- Reading a cursor changes nothing but the cursors. -/
theorem nextBatch_frame (cursor size : Nat) :
    ∃ cursors, (s.nextBatch cursor size).2 = { s with cursors } := by
  unfold nextBatch
  dsimp only
  split
  · exact ⟨s.cursors, rfl⟩
  · split
    · exact ⟨_, rfl⟩
    · exact ⟨_, rfl⟩
  · split
    · exact ⟨_, rfl⟩
    · exact ⟨_, rfl⟩
    · exact ⟨_, rfl⟩

/-- Reading a cursor leaves the others as they are. -/
theorem get?_nextBatch_of_ne {cursor other : Nat} (different : other ≠ cursor) (size : Nat) :
    (s.nextBatch cursor size).2.cursors.get? other = s.cursors.get? other := by
  unfold nextBatch
  dsimp only
  split
  · rfl
  · split
    · exact Dictionary.get?_erase_of_ne different s.cursors
    · exact Dictionary.get?_insert_of_ne different s.cursors _
  · split <;> exact Dictionary.get?_insert_of_ne different s.cursors _

/-- A new cursor is registered, and read for the first time. -/
theorem openCursor_eq (command : Command) (size : Nat) :
    s.openCursor command size =
      match s.arrive with
      | (some fault, s) => (.error fault, s)
      | (none, s) =>
        match s.cursorState command with
        | .error refusal => (.error refusal.toError, s)
        | .ok state =>
          (((s.register state).nextBatch s.nextCursor size).1.map
            fun batch => batch.getD ⟨s.nextCursor, []⟩,
            ((s.register state).nextBatch s.nextCursor size).2) := by
  unfold openCursor
  obtain ⟨_ | fault, s⟩ := s.arrive
  · dsimp only
    cases s.cursorState command with
    | error refusal => rfl
    | ok state =>
      unfold register
      dsimp only
      obtain ⟨_ | _, _⟩ := nextBatch _ s.nextCursor size
      · rfl
      · rfl
  · rfl

/-- Opening a cursor changes nothing but the cursors and what arrives. -/
theorem openCursor_frame (command : Command) (size : Nat) :
    ∃ commands faults cursors nextCursor, s.nextCursor ≤ nextCursor ∧
      (∀ cursor < s.nextCursor, cursors.get? cursor = s.cursors.get? cursor) ∧
      (s.openCursor command size).2 = { s with commands, faults, cursors, nextCursor } := by
  obtain ⟨commands, faults, arrived⟩ := s.arrive_frame
  have quiet : ∃ commands faults cursors nextCursor, s.nextCursor ≤ nextCursor ∧
      (∀ cursor < s.nextCursor, cursors.get? cursor = s.cursors.get? cursor) ∧
      s.arrive.2 = { s with commands, faults, cursors, nextCursor } :=
    ⟨commands, faults, s.cursors, s.nextCursor, Nat.le_refl _, fun _ _ => rfl, arrived⟩
  rw [openCursor_eq]
  revert quiet arrived
  obtain ⟨_ | fault, t⟩ := s.arrive
  · dsimp only
    rintro rfl quiet
    cases Store.cursorState _ command with
    | error refusal => exact quiet
    | ok state =>
      obtain ⟨cursors, read⟩ := nextBatch_frame
        (register { s with commands, faults } state) s.nextCursor size
      refine ⟨commands, faults, cursors, s.nextCursor + 1, Nat.le_succ _, fun cursor old => ?_, read⟩
      have others := get?_nextBatch_of_ne (register { s with commands, faults } state)
        (Nat.ne_of_lt old) size
      rw [read] at others
      exact others.trans (Dictionary.get?_insert_of_ne (Nat.ne_of_lt old) s.cursors state)
  · exact fun _ quiet => quiet

end

/-! ## Documents and the log -/

/-- Stores with the same documents and the same log. -/
structure SameData (s t : Store) : Prop where
  collections : t.collections = s.collections
  events : t.events = s.events

theorem SameData.documents {s t : Store} (h : SameData s t) : t.documents = s.documents := by
  funext collection
  unfold Store.documents
  rw [h.collections]

/-- **Only commands write**, and account for it. -/
theorem after_cases (s : Store) (a : Activity) :
    SameData s (s.after a) ∨
      (∃ command n fates added, a = .execute command ∧ Accounted command s (s.after a) n fates added) ∨
      ∃ collection docs, a = .adjust (.seed collection docs) := by
  cases a with
  | execute command =>
    cases faults : s.faults with
    | nil =>
      cases write : command.isWrite with
      | true =>
        obtain ⟨fates, added, account, -⟩ := exists_accounted faults write
        exact .inr (.inl ⟨command, _, fates, added, rfl, account⟩)
      | false =>
        refine .inl ?_
        rw [after, execute_of_quiet faults, perform_of_not_isWrite _ write]
        exact ⟨rfl, rfl⟩
    | cons fault later =>
      refine .inl ?_
      rw [after, execute_of_fault faults]
      exact ⟨rfl, rfl⟩
  | openCursor command size =>
    obtain ⟨_, _, _, _, -, -, same⟩ := s.openCursor_frame command size
    refine .inl ?_
    rw [after, same]
    exact ⟨rfl, rfl⟩
  | nextBatch cursor size =>
    obtain ⟨_, same⟩ := s.nextBatch_frame cursor size
    refine .inl ?_
    rw [after, same]
    exact ⟨rfl, rfl⟩
  | killCursor cursor => exact .inl ⟨rfl, rfl⟩
  | adjust a =>
    cases a with
    | seed collection docs => exact .inr (.inr ⟨collection, docs, rfl⟩)
    | _ => exact .inl ⟨rfl, rfl⟩

/-- The log only grows. -/
theorem events_after (s : Store) (a : Activity) : s.events <+: (s.after a).events := by
  rcases s.after_cases a with same | ⟨_, _, _, _, -, account⟩ | ⟨collection, docs, rfl⟩
  · exact same.events ▸ List.prefix_refl s.events
  · rw [account.events]
    exact List.prefix_append _ _
  · exact List.prefix_refl _

theorem events_afterAll (s : Store) (activities : List Activity) :
    s.events <+: (s.afterAll activities).events := by
  induction activities generalizing s with
  | nil => exact List.prefix_refl _
  | cons a rest ih => exact (s.events_after a).trans (ih (s.after a))

/-! ## Cursors -/

/-- Commands leave the cursors alone. -/
theorem cursors_execute (s : Store) (command : Command) :
    (s.execute command).2.cursors = s.cursors ∧
      (s.execute command).2.nextCursor = s.nextCursor := by
  cases faults : s.faults with
  | nil =>
    cases write : command.isWrite with
    | true =>
      obtain ⟨_, _, account, -⟩ := exists_accounted faults write
      exact account.cursors
    | false =>
      rw [execute_of_quiet faults, perform_of_not_isWrite _ write]
      exact ⟨rfl, rfl⟩
  | cons fault later =>
    rw [execute_of_fault faults]
    exact ⟨rfl, rfl⟩

/-- A cursor is as it was if nothing is done to it, and its number is not given out again. -/
theorem cursor_after {s : Store} {a : Activity} {cursor : Nat} (old : cursor < s.nextCursor)
    (unused : ¬ a.Uses cursor) :
    (s.after a).cursors.get? cursor = s.cursors.get? cursor ∧ cursor < (s.after a).nextCursor := by
  cases a with
  | execute command =>
    obtain ⟨cursors, next⟩ := s.cursors_execute command
    rw [after, cursors, next]
    exact ⟨rfl, old⟩
  | openCursor command size =>
    obtain ⟨_, _, _, _, le, others, same⟩ := s.openCursor_frame command size
    rw [after, same]
    exact ⟨others cursor old, Nat.lt_of_lt_of_le old le⟩
  | nextBatch other size =>
    obtain ⟨_, same⟩ := s.nextBatch_frame other size
    have next : (s.nextBatch other size).2.nextCursor = s.nextCursor := by rw [same]
    exact ⟨s.get?_nextBatch_of_ne (Ne.symm unused) size, Nat.lt_of_lt_of_eq old next.symm⟩
  | killCursor other =>
    exact ⟨Dictionary.get?_erase_of_ne (Ne.symm unused) s.cursors, old⟩
  | adjust a => cases a <;> exact ⟨rfl, old⟩

end DocStore.Store
