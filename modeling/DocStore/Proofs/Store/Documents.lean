import DocStore.Store.Execute

/-!
# Documents of a store

What the pieces of a write leave of a store: replacing the documents of one collection, and adding
to the log.
-/

namespace DocStore.Store

variable (s : Store) (collection : String) (docs : List Json) (changes : List (Json × Change))

@[simp]
theorem documents_setDocuments : (s.setDocuments collection docs).documents collection = docs := by
  simp [documents, setDocuments, Dictionary.get?_insert_self]

theorem documents_setDocuments_of_ne {other : String} (h : other ≠ collection) :
    (s.setDocuments collection docs).documents other = s.documents other := by
  simp [documents, setDocuments, Dictionary.get?_insert_of_ne h]

@[simp]
theorem documents_log (other : String) :
    (s.log collection changes).documents other = s.documents other := rfl

/-- A command that meets no fault is carried out. -/
theorem execute_of_quiet {s : Store} (quiet : s.faults = []) (command : Command) :
    s.execute command = Store.perform { s with commands := s.commands + 1 } command := by
  simp [execute, arrive, quiet]

/-- A command that meets a fault fails with it, and leaves the documents. -/
theorem execute_of_fault {s : Store} {fault : TransportError} {later : List TransportError}
    (h : s.faults = fault :: later) (command : Command) :
    s.execute command =
      (.error fault, { s with commands := s.commands + 1, faults := later }) := by
  simp [execute, arrive, h]

/-- Only writes touch the store. -/
theorem perform_of_not_isWrite {command : Command} (h : command.isWrite = false) :
    (s.perform command).2 = s := by
  have untouched {α : Type} (reply : α → Reply) (x : Except Refusal α) :
      (s.answer reply x).2 = s := by
    cases x <;> rfl
  cases command with
  | insert | update | delete => simp [Command.isWrite] at h
  | _ => exact untouched _ _

end DocStore.Store
