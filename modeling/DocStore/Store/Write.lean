import DocStore.Store.Basic
import DocStore.Store.Refusal

/-!
# Writes

Inserts, updates and deletes on one collection. Each is a function on the list of documents that
also says what it did; the store then keeps the documents, logs one event for each document
concerned, and answers.
-/

namespace DocStore

namespace Store

/-! ## Insert -/

/-- A batch insert so far. -/
structure InsertRun where
  /-- The documents stored, each with its identifier. -/
  stored : List (Json × Json) := []
  /-- Why the first document that was not stored was refused. -/
  refusal : Option Refusal := none
  ids : IdSupply

/-- Whether some document has an equal identifier. -/
def hasId (docs : List Json) (id : Json) : Bool :=
  docs.any fun d => (d.get? "_id").any fun i => i.equals id

/-- The batch after a document that was refused; the first reason counts. -/
def InsertRun.refuse (r : InsertRun) (refusal : Refusal) : InsertRun :=
  { r with refusal := r.refusal.or (some refusal) }

/-- Stores one document of a batch after those of a collection, unless it is refused. -/
def insertOne (database collection : String) (existing : List Json) (r : InsertRun) (doc : Json) :
    InsertRun :=
  match doc with
  | .obj fs =>
    let (id, fs, ids) := Fields.identify false fs r.ids
    let r := { r with ids }
    if hasId (existing ++ r.stored.map (·.2)) id then
      r.refuse (.duplicateKey database collection id)
    else { r with stored := r.stored ++ [(id, .obj fs)] }
  | _ => r.refuse .documentNotObject

/-- Stores a batch of documents. An ordered insert ends at the first refusal, another skips the
documents that are refused. -/
def insertBatch (database collection : String) (existing : List Json) (ordered : Bool) :
    List Json → InsertRun → InsertRun
  | [], r => r
  | doc :: rest, r =>
    let r := insertOne database collection existing r doc
    if ordered && r.refusal.isSome then r
    else insertBatch database collection existing ordered rest r

/-- Inserts documents into a collection. -/
def insert (s : Store) (collection : String) (docs : List Json) (ordered : Bool) :
    TransportResult Reply × Store :=
  let existing := s.documents collection
  let r := insertBatch s.name collection existing ordered docs { ids := s.ids }
  let after := { s.setDocuments collection (existing ++ r.stored.map (·.2)) with ids := r.ids }
  let after := after.log collection (r.stored.map fun (id, doc) => (id, .inserted doc))
  match r.refusal with
  | none => (.ok (.inserted (r.stored.map (·.1))), after)
  | some refusal => (.error (refusal.after r.stored.length), after)

/-! ## Update -/

/-- What an update did to the documents of a collection. -/
structure UpdateRun where
  docs : List Json
  matched : Nat := 0
  /-- The changed documents as they are now. -/
  changed : List Json := []
  /-- Why the update stopped early. -/
  refusal : Option Refusal := none

/-- Updates the documents that satisfy a query, or the first of them. The first fault ends the
update; what was changed before stays changed. -/
def updateDocuments (filter changes : Json) (multi : Bool) : List Json → UpdateRun
  | [] => { docs := [] }
  | d :: rest =>
    match Query.selects d filter with
    | .error fault => { docs := d :: rest, refusal := some (.query fault) }
    | .ok false =>
      let r := updateDocuments filter changes multi rest
      { r with docs := d :: r.docs }
    | .ok true =>
      match Update.apply d changes with
      | .error fault => { docs := d :: rest, matched := 1, refusal := some (.changes fault) }
      | .ok next =>
        let r := if multi then updateDocuments filter changes multi rest else { docs := rest }
        if next.same d then { r with docs := d :: r.docs, matched := r.matched + 1 }
        else { r with
          docs := next :: r.docs, matched := r.matched + 1, changed := next :: r.changed }

/-- The identifier of a stored document. -/
def idOf (doc : Json) : Json := (doc.get? "_id").getD .null

/-- Updates documents of a collection. -/
def update (s : Store) (collection : String) (filter changes : Json) (multi : Bool) :
    TransportResult Reply × Store :=
  let r := updateDocuments filter changes multi (s.documents collection)
  let after := s.setDocuments collection r.docs
  let after := after.log collection (r.changed.map fun doc => (idOf doc, .updated doc))
  match r.refusal with
  | none => (.ok (.updated r.matched r.changed.length), after)
  | some refusal => (.error (refusal.after r.changed.length), after)

/-! ## Delete -/

/-- The documents that stay and those that are removed: all that satisfy a query, or the first
of them. -/
def splitMatching (filter : Json) (multi : Bool) :
    List Json → Except Query.Fault (List Json × List Json)
  | [] => .ok ([], [])
  | d :: rest => do
    if ← Query.selects d filter then
      if multi then
        let (kept, removed) ← splitMatching filter multi rest
        pure (kept, d :: removed)
      else pure (rest, [d])
    else
      let (kept, removed) ← splitMatching filter multi rest
      pure (d :: kept, removed)

/-- Deletes documents of a collection; a fault leaves all of them. -/
def delete (s : Store) (collection : String) (filter : Json) (multi : Bool) :
    TransportResult Reply × Store :=
  match splitMatching filter multi (s.documents collection) with
  | .error fault => (.error (Refusal.query fault).toError, s)
  | .ok (kept, removed) =>
    let after := s.setDocuments collection kept
    (.ok (.deleted removed.length),
      after.log collection (removed.map fun doc => (idOf doc, .removed)))

end Store

end DocStore
