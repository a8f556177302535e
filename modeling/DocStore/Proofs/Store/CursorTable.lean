import DocStore.Proofs.Store.Activity
import DocStore.Proofs.Store.Timeless
import DocStore.Store.Connection

/-!
# The table of cursors

The cursors of a store stand in a table under their numbers. A call leaves the table as it is, but
for the cursor that the call is about (`Store.SameBut`). A cursor leaves the table with its last
batch, and a number that is not in the table cannot be read.
-/

namespace DocStore.Store

/-- The numbers of the open cursors have been given out, and there is no number zero. -/
structure Numbered (s : Store) : Prop where
  positive : 0 < s.nextCursor
  known : ∀ id, (s.cursors.get? id).isSome → id < s.nextCursor

/-- A store has become another one in which no cursors but some are opened, moved or closed. -/
structure SameBut (ids : List Nat) (s t : Store) : Prop where
  others : ∀ id, id ∉ ids → t.cursors.get? id = s.cursors.get? id
  next : s.nextCursor ≤ t.nextCursor
  unreachable : t.unreachable = s.unreachable

section

variable {s t u : Store} {ids more : List Nat}

theorem SameBut.refl (s : Store) : SameBut ids s s := ⟨fun _ _ => rfl, Nat.le_refl _, rfl⟩

/-- What each of two operations leaves alone is the same after both. -/
theorem SameBut.trans (h : SameBut ids s t) (h' : SameBut ids t u) : SameBut ids s u where
  others := fun id other => (h'.others id other).trans (h.others id other)
  next := Nat.le_trans h.next h'.next
  unreachable := h'.unreachable.trans h.unreachable

theorem SameBut.mono (h : SameBut ids s t) (sub : ids ⊆ more) : SameBut more s t where
  others := fun id other => h.others id fun mem => other (sub mem)
  next := h.next
  unreachable := h.unreachable

/-- Nothing is lost by looking at a cursor that is back as it was. -/
theorem SameBut.restored {id : Nat} (h : SameBut [id] s t)
    (same : t.cursors.get? id = s.cursors.get? id) : SameBut [] s t where
  others := by
    intro other _
    by_cases this : other = id
    · rw [this, same]
    · exact h.others other fun mem => this (List.mem_singleton.1 mem)
  next := h.next
  unreachable := h.unreachable

theorem SameBut.of_nil (h : SameBut [] s t) : SameBut ids s t := h.mono (List.nil_subset _)

/-- The number of the next cursor is free. -/
theorem Numbered.next_closed (h : s.Numbered) : s.cursors.get? s.nextCursor = none := by
  cases found : s.cursors.get? s.nextCursor with
  | none => rfl
  | some state =>
    have := h.known s.nextCursor (by rw [found]; rfl)
    exact absurd this (Nat.lt_irrefl _)

/-- Cursors are numbered after an operation if those that it changed have numbers given out by then.
-/
theorem Numbered.step (h : s.Numbered) (same : SameBut ids s t)
    (known : ∀ id ∈ ids, id < t.nextCursor) : t.Numbered where
  positive := Nat.lt_of_lt_of_le h.positive same.next
  known := by
    intro id opened
    by_cases mine : id ∈ ids
    · exact known id mine
    · rw [same.others id mine] at opened
      exact Nat.lt_of_lt_of_le (h.known id opened) same.next

theorem Numbered.of_sameBut (h : s.Numbered) (same : SameBut ids s t)
    (known : ∀ id ∈ ids, id < s.nextCursor) : t.Numbered :=
  h.step same fun id mine => Nat.lt_of_lt_of_le (known id mine) same.next

/-- Stores that are alike have the same cursors. -/
theorem Alike.sameBut (h : s.Alike t) : SameBut [] s t := by
  obtain ⟨_, _, _, rfl⟩ := h
  exact ⟨fun _ _ => rfl, Nat.le_refl _, rfl⟩

end

section

variable (s : Store)

/-! ## Commands -/

theorem sameBut_arrive : SameBut [] s s.arrive.2 := by
  obtain ⟨_, _, same⟩ := s.arrive_frame
  rw [same]
  exact ⟨fun _ _ => rfl, Nat.le_refl _, rfl⟩

/-- No command makes a store unreachable, or reachable again. -/
theorem unreachable_perform (command : Command) :
    (s.perform command).2.unreachable = s.unreachable := by
  cases write : command.isWrite with
  | false => rw [perform_of_not_isWrite s write]
  | true =>
    unfold perform
    cases command with
    | insert =>
      unfold insert
      dsimp only
      split <;> rfl
    | update =>
      unfold update
      dsimp only
      split <;> rfl
    | delete =>
      unfold delete
      dsimp only
      split <;> rfl
    | _ => cases write

theorem sameBut_execute (command : Command) : SameBut [] s (s.execute command).2 := by
  obtain ⟨cursors, next⟩ := s.cursors_execute command
  refine ⟨fun id _ => by rw [cursors], Nat.le_of_eq next.symm, ?_⟩
  have arrived := s.sameBut_arrive.unreachable
  unfold execute
  revert arrived
  obtain ⟨_ | fault, t⟩ := s.arrive
  · exact fun arrived => (t.unreachable_perform command).trans arrived
  · exact fun arrived => arrived

/-! ## Reads -/

theorem sameBut_nextBatch (id size : Nat) : SameBut [id] s (s.nextBatch id size).2 := by
  obtain ⟨cursors, same⟩ := s.nextBatch_frame id size
  refine ⟨fun other different => ?_, ?_, ?_⟩
  · exact s.get?_nextBatch_of_ne (fun e => different (List.mem_singleton.2 e)) size
  · exact Nat.le_of_eq (by rw [same])
  · rw [same]

theorem sameBut_killCursor (id : Nat) : SameBut [id] s (s.killCursor id) where
  others := fun _ other =>
    Dictionary.get?_erase_of_ne (fun e => other (List.mem_singleton.2 e)) s.cursors
  next := Nat.le_refl _
  unreachable := rfl

/-- A new cursor takes the next number, and no open one changes. -/
theorem sameBut_register (state : CursorState) : SameBut [s.nextCursor] s (s.register state) where
  others := fun _ other =>
    Dictionary.get?_insert_of_ne (fun e => other (List.mem_singleton.2 e)) s.cursors state
  next := Nat.le_succ _
  unreachable := rfl

end

section

variable {s : Store} {id : Nat} {docs : List Json}

theorem nextBatch_of_closed (closed : s.cursors.get? id = none) (size : Nat) :
    s.nextBatch id size = (.error (Refusal.cursorNotFound id).toError, s) := by
  unfold nextBatch
  rw [closed]

/-- A read takes documents off a buffered result, and closes the cursor if none are left. -/
theorem nextBatch_of_buffered (found : s.cursors.get? id = some (.buffered docs)) (size : Nat) :
    (s.nextBatch id size).1 =
        .ok (some ⟨if docs.drop (max size 1) = [] then 0 else id, docs.take (max size 1)⟩) ∧
      (s.nextBatch id size).2.cursors.get? id =
        if docs.drop (max size 1) = [] then none else some (.buffered (docs.drop (max size 1))) := by
  unfold nextBatch
  rw [found]
  simp only [List.isEmpty_iff]
  by_cases last : docs.drop (max size 1) = []
  · rw [if_pos last, if_pos last, if_pos last]
    exact ⟨rfl, Dictionary.get?_erase_self ..⟩
  · rw [if_neg last, if_neg last, if_neg last]
    exact ⟨rfl, Dictionary.get?_insert_self ..⟩

/-- An open cursor has ended and is closed after a read, or goes on under its number. -/
theorem nextBatch_of_open (opened : (s.cursors.get? id).isSome) (size : Nat) :
    (∃ docs, (s.nextBatch id size).1 = .ok (some ⟨0, docs⟩) ∧
        (s.nextBatch id size).2.cursors.get? id = none) ∨
      (∀ batch, (s.nextBatch id size).1 = .ok (some batch) → batch.cursor = id) ∧
        ((s.nextBatch id size).2.cursors.get? id).isSome := by
  obtain ⟨state, found⟩ := Option.isSome_iff_exists.1 opened
  cases state with
  | buffered docs =>
    obtain ⟨answer, left⟩ := nextBatch_of_buffered found size
    rw [answer, left]
    by_cases last : docs.drop (max size 1) = []
    · rw [if_pos last, if_pos last]
      exact .inl ⟨_, rfl, rfl⟩
    · rw [if_neg last, if_neg last]
      refine .inr ⟨fun batch same => ?_, rfl⟩
      cases same
      rfl
  | tailing collection pipeline position =>
    refine .inr ?_
    unfold nextBatch
    rw [found]
    dsimp only
    split
    · exact ⟨fun _ same => (nomatch same), by rw [Dictionary.get?_insert_self]; rfl⟩
    · exact ⟨fun _ same => (nomatch same), by rw [Dictionary.get?_insert_self]; rfl⟩
    · refine ⟨fun batch same => ?_, by rw [Dictionary.get?_insert_self]; rfl⟩
      cases same
      rfl

end

/-! ## Opening -/

/-- A cursor was opened: it is in the table under the next number, unless its first batch was its
last. -/
structure Opened (id : Nat) (s t : Store) : Prop where
  table : SameBut [s.nextCursor] s t
  next : t.nextCursor = s.nextCursor + 1
  state : id = 0 ∧ t.cursors.get? s.nextCursor = none ∨
    id = s.nextCursor ∧ (t.cursors.get? s.nextCursor).isSome

/-- Once a cursor was opened, the next one has a higher number. -/
theorem Opened.numbered {id : Nat} {s t : Store} (h : Opened id s t) (numbered : s.Numbered) :
    t.Numbered := by
  refine numbered.step h.table fun other mem => ?_
  rw [List.mem_singleton.1 mem, h.next]
  exact Nat.lt_succ_self _

theorem Opened.of_alike {id : Nat} {s t u : Store} (h : Opened id t u) (alike : s.Alike t) :
    Opened id s u := by
  obtain ⟨_, _, _, rfl⟩ := alike
  exact ⟨⟨h.table.others, h.table.next, h.table.unreachable⟩, h.next, h.state⟩

theorem Opened.then_alike {id : Nat} {s t u : Store} (h : Opened id s t) (alike : t.Alike u) :
    Opened id s u := by
  obtain ⟨_, _, _, rfl⟩ := alike
  exact ⟨⟨h.table.others, h.table.next, h.table.unreachable⟩, h.next, h.state⟩

/-- Reading a cursor that was just registered does not fail. -/
theorem nextBatch_register {s : Store} {command : Command} {state : CursorState}
    (made : s.cursorState command = .ok state) (size : Nat) :
    ∃ batch, ((s.register state).nextBatch s.nextCursor size).1 = .ok batch ∧
      Opened (batch.getD ⟨s.nextCursor, []⟩).cursor s
        ((s.register state).nextBatch s.nextCursor size).2 := by
  have entered : (s.register state).cursors.get? s.nextCursor = some state :=
    Dictionary.get?_insert_self ..
  have table := (s.sameBut_register state).trans
    ((s.register state).sameBut_nextBatch s.nextCursor size)
  have next : ((s.register state).nextBatch s.nextCursor size).2.nextCursor = s.nextCursor + 1 := by
    obtain ⟨_, same⟩ := (s.register state).nextBatch_frame s.nextCursor size
    rw [same]
    rfl
  have read := nextBatch_of_open (by rw [entered]; rfl) size
  have answered : ∃ batch, ((s.register state).nextBatch s.nextCursor size).1 = .ok batch := by
    cases state with
    | buffered docs => exact ⟨_, (nextBatch_of_buffered entered size).1⟩
    | tailing collection pipeline position =>
      -- A cursor on changes starts at the end of the log, where there is nothing to read.
      have last : position = s.events.length := by
        cases command with
        | watch =>
          obtain ⟨_, -, same⟩ := Fallible.bind_eq_ok.1 made
          cases same
          rfl
        | find | aggregate =>
          obtain ⟨_, -, same⟩ := Fallible.map_eq_ok.1 made
          cases same
        | _ => cases made
      refine ⟨none, ?_⟩
      unfold nextBatch
      rw [entered]
      simp [register, last, follow]
  obtain ⟨batch, answer⟩ := answered
  refine ⟨batch, answer, table, next, ?_⟩
  rcases read with ⟨docs, ended, closed⟩ | ⟨goesOn, opened⟩
  · rw [answer] at ended
    cases ended
    exact .inl ⟨rfl, closed⟩
  · refine .inr ⟨?_, opened⟩
    cases batch with
    | none => rfl
    | some batch => exact goesOn batch answer

/-- **Opening a cursor fails without a trace, or enters it under the next number.** -/
theorem openCursor_cases (s : Store) (command : Command) (size : Nat) :
    (∃ e, (s.openCursor command size).1 = .error e ∧ SameBut [] s (s.openCursor command size).2) ∨
      ∃ batch, (s.openCursor command size).1 = .ok batch ∧
        Opened batch.cursor s (s.openCursor command size).2 := by
  obtain ⟨commands, faults, arrived⟩ := s.arrive_frame
  have quiet := s.sameBut_arrive
  rw [openCursor_eq]
  revert arrived quiet
  obtain ⟨_ | fault, t⟩ := s.arrive
  · rintro rfl quiet
    dsimp only
    cases made : Store.cursorState _ command with
    | error refusal => exact .inl ⟨_, rfl, quiet⟩
    | ok state =>
      obtain ⟨batch, answer, opened⟩ := nextBatch_register made size
      dsimp only at answer opened ⊢
      rw [answer]
      exact .inr ⟨_, rfl, quiet.of_nil.trans opened.table, opened.next, opened.state⟩
  · exact fun _ quiet => .inl ⟨fault, rfl, quiet⟩

end DocStore.Store
