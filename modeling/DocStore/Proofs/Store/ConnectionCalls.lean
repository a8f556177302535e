import DocStore.Proofs.Store.CursorTable

/-!
# Calls over connections

A connection takes down the cursors that are opened through it, and crosses out those that it sees to
end. A call over it leaves the table of cursors as the call to the store does
(`Connection.openCursor_cases`, `Connection.Fetched`).
-/

namespace DocStore

open Store (SameBut Opened)

theorem Store.cursors_connect {s : Store} {mode : Mode} {k : Connection}
    (h : (s.connect mode).1 = .ok k) : k.cursors = [] := by
  revert h
  unfold connect
  split
  · exact fun h => nomatch h
  · cases mode <;> exact fun h => by cases h; rfl

namespace Connection

theorem cursors_record {k : Connection} (idle : k.cursors = []) (batch : Batch) :
    (k.record batch).cursors = if batch.cursor = 0 then [] else [batch.cursor] := by
  unfold record Batch.isLast
  rw [idle]
  by_cases last : batch.cursor = 0
  · simp [last, idle]
  · simp [last]

theorem cursors_forget {k : Connection} {id : Nat} (tracked : k.cursors = [id]) :
    (k.forget id).cursors = [] := by
  unfold forget
  simp [tracked]

/-- A connection without open cursors has none to close when it is reset. -/
theorem reset_of_idle {k : Connection} (idle : k.cursors = []) (s : Store) :
    k.reset s = ({}, { s with resets := s.resets + 1 }) := by
  unfold reset
  rw [idle]
  rfl

/-- A cursor that could not be opened leaves no trace; one that is not exhausted is recorded. -/
theorem openCursor_cases (k : Connection) (p : Patience) (command : Command) (size : Nat)
    (s : Store) :
    (∃ e, (k.openCursor p command size s).1 = .error e ∧ (k.openCursor p command size s).2.1 = k ∧
        SameBut [] s (k.openCursor p command size s).2.2) ∨
      ∃ batch, (k.openCursor p command size s).1 = .ok batch ∧
        (k.openCursor p command size s).2.1 = k.record batch ∧
        Opened batch.cursor s (k.openCursor p command size s).2.2 := by
  have waited := s.alike_delay p
  unfold openCursor
  revert waited
  obtain ⟨e | _, t⟩ := s.delay p
  · exact fun waited => .inl ⟨e, rfl, rfl, waited.sameBut⟩
  · intro waited
    have opening := t.openCursor_cases command size
    dsimp only
    revert opening
    obtain ⟨e | batch, u⟩ := t.openCursor command size
    · rintro (⟨_, -, same⟩ | ⟨_, other, -⟩)
      · exact .inl ⟨e, rfl, rfl, waited.sameBut.trans same⟩
      · cases other
    · rintro (⟨_, other, -⟩ | ⟨_, same, opened⟩)
      · cases other
      · cases same
        exact .inr ⟨batch, rfl, rfl, opened.of_alike waited⟩

/-- A command leaves the connection as it is. -/
theorem execute_traceless (k : Connection) (p : Patience) (command : Command) (s : Store) :
    (k.execute p command s).2.1 = k ∧ SameBut [] s (k.execute p command s).2.2 := by
  have waited := (s.alike_delay p).sameBut
  unfold execute
  revert waited
  obtain ⟨e | _, t⟩ := s.delay p
  · exact fun waited => ⟨rfl, waited⟩
  · exact fun waited => ⟨rfl, waited.trans (t.sameBut_execute command)⟩

/-- What a fetch leaves: the cursor has ended, and the connection has forgotten it, or it goes
on. -/
structure Fetched (k : Connection) (id : Nat) (s : Store) (result : TransportResult Batch)
    (k' : Connection) (t : Store) : Prop where
  table : SameBut [id] s t
  outcome : (∃ docs, result = .ok ⟨0, docs⟩ ∧ k' = k.forget id ∧ t.cursors.get? id = none) ∨
    (∀ batch, result = .ok batch → batch.cursor = id) ∧ k' = k ∧ (t.cursors.get? id).isSome

/-- A batch that is the last leaves the cursor closed and the connection without it; any other
leaves both. -/
theorem fetched_getMore (k : Connection) (p : Patience) {id : Nat} (size : Nat) {s : Store}
    (opened : (s.cursors.get? id).isSome) (positive : id ≠ 0) :
    Fetched k id s (k.getMore p id size s).1 (k.getMore p id size s).2.1
      (k.getMore p id size s).2.2 := by
  have waited := s.alike_delay p
  unfold getMore
  revert waited
  obtain ⟨e | _, t⟩ := s.delay p
  · intro waited
    have same : SameBut [] s t := waited.sameBut
    refine ⟨same.of_nil, .inr ⟨fun _ wrong => (nomatch wrong), rfl, ?_⟩⟩
    rw [same.others id List.not_mem_nil]
    exact opened
  · intro waited
    have before : SameBut [] s t := waited.sameBut
    rw [← before.others id List.not_mem_nil] at opened
    have table := before.of_nil.trans (t.sameBut_nextBatch id size)
    have read := Store.nextBatch_of_open opened size
    dsimp only
    revert table read
    obtain ⟨e | _ | batch, u⟩ := t.nextBatch id size
    · rintro table (⟨_, ended, -⟩ | ⟨-, opened⟩)
      · cases ended
      · exact ⟨table, .inr ⟨fun _ wrong => (nomatch wrong), rfl, opened⟩⟩
    · rintro table (⟨_, ended, -⟩ | ⟨-, opened⟩)
      · cases ended
      · have after : SameBut [] u (u.awaitChange p).2 := (u.alike_awaitChange p).sameBut
        refine ⟨table.trans after.of_nil, .inr ⟨fun _ wrong => (nomatch wrong), rfl, ?_⟩⟩
        rw [after.others id List.not_mem_nil]
        exact opened
    · rintro table (⟨docs, ended, closed⟩ | ⟨goesOn, opened⟩)
      · cases ended
        exact ⟨table, .inl ⟨docs, rfl, rfl, closed⟩⟩
      · have same : batch.cursor = id := goesOn batch rfl
        refine ⟨table, .inr ⟨fun other equal => ?_, ?_, opened⟩⟩
        · cases equal
          exact same
        · show (if batch.isLast then k.forget id else k) = k
          rw [Batch.isLast, same, if_neg (by simpa using positive)]

end Connection

end DocStore
