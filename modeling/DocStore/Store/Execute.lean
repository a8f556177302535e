import DocStore.Store.Read
import DocStore.Store.Write

/-!
# Executing commands

A command meets the next injected fault, or is carried out.
-/

namespace DocStore

namespace Store

/-- The answer to a read. -/
def answer {α : Type} (reply : α → Reply) (s : Store) :
    Except Refusal α → TransportResult Reply × Store
  | .ok a => (.ok (reply a), s)
  | .error refusal => (.error refusal.toError, s)

/-- Carries out a command. -/
def perform (s : Store) : Command → TransportResult Reply × Store
  | .insert collection docs ordered => s.insert collection docs ordered
  | .update collection filter changes multi => s.update collection filter changes multi
  | .delete collection filter multi => s.delete collection filter multi
  | .find collection q => s.answer .documents (s.find collection q)
  | .count collection filter => s.answer .count (s.count collection filter)
  | .distinct collection field filter => s.answer .values (s.distinct collection field filter)
  | .aggregate collection pipeline => s.answer .documents (s.aggregate collection pipeline)
  | .watch .. => s.answer .documents (.error .watchNeedsCursor)

/-- The next injected fault, if there is one. -/
def arrive (s : Store) : Option TransportError × Store :=
  let s := { s with commands := s.commands + 1 }
  match s.faults with
  | [] => (none, s)
  | fault :: later => (some fault, { s with faults := later })

/-- Executes a command. -/
def execute (s : Store) (command : Command) : TransportResult Reply × Store :=
  match s.arrive with
  | (some fault, s) => (.error fault, s)
  | (none, s) => s.perform command

end Store

end DocStore
