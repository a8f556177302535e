import DocStore.Store.Execute

/-!
# Cursors of the store

A cursor on documents holds a result that was computed when it was opened, and is gone once the
last document was read. A cursor on changes follows the log; it is never exhausted.
-/

namespace DocStore

namespace Store

/-- What a new cursor has to deliver. -/
def cursorState (s : Store) : Command → Except Refusal CursorState
  | .find collection q => (s.find collection q).map .buffered
  | .aggregate collection pipeline => (s.aggregate collection pipeline).map .buffered
  | .watch collection pipeline => do
    let _ ← refuse (Aggregation.run (fun _ => []) pipeline [])
    pure (.tailing collection pipeline s.events.length)
  | command => .error (.noCursor command.name)

/-- Passes the events of a collection through a pipeline until there are enough documents, and
says how many events were looked at. A fault loses the documents gathered before it. -/
def follow (collection : String) (pipeline : List Json) (size : Nat) (gathered : List Json) :
    List ChangeEvent → Nat × Except Refusal (List Json)
  | [] => (0, .ok gathered)
  | e :: later =>
    if size ≤ gathered.length then (0, .ok gathered)
    else if e.collection == collection then
      match Aggregation.run (fun _ => []) pipeline [e.toJson] with
      | .error fault => (1, .error (.aggregation fault))
      | .ok docs =>
        let (n, result) := follow collection pipeline size (gathered ++ docs) later
        (n + 1, result)
    else
      let (n, result) := follow collection pipeline size gathered later
      (n + 1, result)

/-- Reads the next documents of a cursor, at least one at a time; `none` where there are no new
changes. -/
def nextBatch (s : Store) (cursor size : Nat) : TransportResult (Option Batch) × Store :=
  let size := max size 1
  match s.cursors.get? cursor with
  | none => (.error (Refusal.cursorNotFound cursor).toError, s)
  | some (.buffered docs) =>
    let rest := docs.drop size
    if rest.isEmpty then
      (.ok (some ⟨0, docs.take size⟩), { s with cursors := s.cursors.erase cursor })
    else
      (.ok (some ⟨cursor, docs.take size⟩),
        { s with cursors := s.cursors.insert cursor (.buffered rest) })
  | some (.tailing collection pipeline position) =>
    let (n, result) := follow collection pipeline size [] (s.events.drop position)
    let s := { s with
      cursors := s.cursors.insert cursor (.tailing collection pipeline (position + n)) }
    match result with
    | .error refusal => (.error refusal.toError, s)
    | .ok [] => (.ok none, s)
    | .ok docs => (.ok (some ⟨cursor, docs⟩), s)

/-- Opens a cursor and reads its first documents. -/
def openCursor (s : Store) (command : Command) (size : Nat) : TransportResult Batch × Store :=
  match s.arrive with
  | (some fault, s) => (.error fault, s)
  | (none, s) =>
    match s.cursorState command with
    | .error refusal => (.error refusal.toError, s)
    | .ok state =>
      let cursor := s.nextCursor
      let s := { s with
        cursors := s.cursors.insert cursor state
        nextCursor := cursor + 1 }
      match s.nextBatch cursor size with
      | (.ok batch, s) => (.ok (batch.getD ⟨cursor, []⟩), s)
      | (.error e, s) => (.error e, s)

/-- Closes a cursor, if it is open. -/
def killCursor (s : Store) (cursor : Nat) : Store :=
  { s with cursors := s.cursors.erase cursor }

end Store

end DocStore
