import DocStore.Proofs.Client.Custody

/-!
# Calls that end in time

A call that ends before its deadline was in time at every moment of it: whenever it looked at the
clock, it was not late. So such a call makes up its mind once whether it is late, and a cursor that
has arrived is handed over.
-/

namespace DocStore

open Paired (now)
open Lockstep (ahead_of_le)

namespace Patience

variable {α : Type} {mode : Mode} {started : Nat} {limit : Option Nat} {s : Store} {a : α}

/-- Who ends a call with a result before the deadline would not have been late at the end. -/
theorem not_late_of_settled
    (ahead : Ahead started limit ((of mode started limit).settle limit (.ok a) s).2) :
    ((of mode started limit).isLate s).1 = false := by
  cases limit with
  | none => cases mode <;> rfl
  | some l => exact isLate_of_ahead ahead

/-- A result that is there before the deadline is kept. -/
theorem settle_of_ahead
    (ahead : Ahead started limit ((of mode started limit).settle limit (.ok a) s).2) :
    ((of mode started limit).settle limit (.ok a) s).1 = .ok a :=
  settle_ok (not_late_of_settled ahead) limit a

end Patience

namespace Client

section

variable {mode : Mode} {command : Command} {limit : Option Nat} {started : Nat}
  {g : Guard Connection} {batch : Batch} {c : Client}

/-- A cursor is handed over in time if the call ends in time. -/
theorem handOver_of_ahead
    (ahead : Ahead started limit (c.handOver ⟨mode, command, limit, started⟩ g batch).2) :
    (c.handOver ⟨mode, command, limit, started⟩ g batch).1 =
        .ok { mode, guard := g, id := batch.cursor, buffer := batch.documents, limit } ∧
      c.store.Alike (c.handOver ⟨mode, command, limit, started⟩ g batch).2.store ∧
      (Patience.of mode started limit).decidesOnce c.store := by
  rw [handOver_eq] at ahead ⊢
  simp only [Call.patience_mk] at ahead ⊢
  have first := (Patience.of mode started limit).alike_isLate c.store
  cases late : (onStore (Patience.of mode started limit).isLate c).1 with
  | true =>
    rw [late] at ahead
    -- Giving the cursor up takes time only after the look that found it late.
    have looked : Ahead started limit (onStore (Patience.of mode started limit).isLate c).2 :=
      ahead_of_le ((giveUp_lockstep command g batch.cursor (.timeout 0)).mono mode started _) ahead
    have timely : (onStore (Patience.of mode started limit).isLate c).1 = false :=
      Patience.isLate_of_ahead looked
    rw [late] at timely
    cases timely
  | false =>
    rw [late] at ahead
    have settled : Ahead started limit (settle (onStore (Patience.of mode started limit).isLate c).2
        ⟨mode, command, limit, started⟩ (.ok batch)).2 :=
      ahead_of_le ((deliver_lockstep command g _).mono mode started _) ahead
    simp only [settle, Call.patience_mk] at settled
    have kept : (settle (onStore (Patience.of mode started limit).isLate c).2
        ⟨mode, command, limit, started⟩ (.ok batch)).1 = .ok batch := by
      simp only [settle, Call.patience_mk]
      exact Patience.settle_of_ahead settled
    have second := (Call.mk mode command limit started).patience.alike_settle limit (.ok batch)
      (onStore (Patience.of mode started limit).isLate c).2.store
    have again := Patience.not_late_of_settled settled
    unfold handOverBy
    rw [if_neg Bool.false_ne_true, kept]
    refine ⟨rfl, first.trans second, ?_⟩
    unfold Patience.decidesOnce
    exact beq_iff_eq.2 (again.trans late.symm)

/-- **Who opens a cursor in time makes up its mind once whether it is late.** -/
theorem decidesOnce_of_inTime (inTime : c.inTime limit (c.openCursor mode command limit).2) :
    c.decidesOnce mode command limit := by
  have ahead := ahead_of_inTime inTime
  revert ahead
  unfold openCursor decidesOnce
  dsimp only [begin]
  obtain ⟨e | g, c'⟩ := acquire _ _
  · exact fun _ => rfl
  · dsimp only
    obtain ⟨e | batch, g', s⟩ := g.call _ c'.store
    · exact fun _ => rfl
    · intro ahead
      dsimp only at ahead ⊢
      rw [Call.patience_mk]
      exact (handOver_of_ahead ahead).2.2

end

end Client

namespace Session

variable {s : Session}

theorem stepDecidesOnce_of_inTime {a : Action} (inTime : s.stepInTime a) : s.stepDecidesOnce a := by
  cases a with
  | openCursor name mode draft limit =>
    dsimp only [stepInTime, stepDecidesOnce] at inTime ⊢
    cases drawn : s.draw draft with
    | error e => rfl
    | ok made =>
      rw [drawn] at inTime
      exact Client.decidesOnce_of_inTime inTime
  | _ => rfl

end Session

end DocStore
