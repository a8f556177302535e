import DocStore.Aggregation.Stages
import DocStore.Command
import DocStore.Store.Basic
import DocStore.Store.Refusal

/-!
# Reads

Finding, counting and aggregating documents, and the distinct values of a field. Reads leave the
store as it is.
-/

namespace DocStore

namespace Store

/-- The documents of a collection that satisfy a query. -/
def select (s : Store) (collection : String) (filter : Json) : Except Refusal (List Json) :=
  match Query.select filter (s.documents collection) with
  | .ok docs => .ok docs
  | .error fault => .error (.query fault)

/-- The result of a step of aggregation. -/
def refuse {α : Type} : Except Aggregation.Fault α → Except Refusal α
  | .ok a => .ok a
  | .error fault => .error (.aggregation fault)

/-- Keeps the first documents; no limit and a limit of zero keep all. -/
def truncate (limit : Option Nat) (docs : List Json) : List Json :=
  match limit with
  | none => docs
  | some 0 => docs
  | some n => docs.take n

/-- The documents that a query finds: selected, sorted, cut to a page and projected. -/
def find (s : Store) (collection : String) (q : FindQuery) : Except Refusal (List Json) := do
  let docs ← s.select collection q.filter
  let docs ← match q.sort with
    | some spec => refuse (Aggregation.sort spec docs)
    | none => .ok docs
  let docs := truncate q.limit (docs.drop q.skip)
  match q.projection with
  | none => .ok docs
  | some (.obj spec) => refuse (Aggregation.project (.obj spec) docs)
  | some _ => .error .projectionNotObject

/-- The number of documents that satisfy a query. -/
def count (s : Store) (collection : String) (filter : Json) : Except Refusal Nat := do
  pure (← s.select collection filter).length

/-- The values at a path in a document; an array counts as its items. -/
def occurrences (path : String) (doc : Json) : List Json :=
  match doc.getPath? path with
  | some (.arr xs) => xs
  | some v => [v]
  | none => []

/-- The values at a path in the documents that satisfy a query, each once. -/
def distinct (s : Store) (collection field : String) (filter : Json) :
    Except Refusal (List Json) := do
  let docs ← s.select collection filter
  pure (Aggregation.Accumulator.distinct (docs.flatMap (occurrences field)))

/-- The documents that a pipeline makes of a collection. -/
def aggregate (s : Store) (collection : String) (pipeline : List Json) :
    Except Refusal (List Json) :=
  refuse (Aggregation.run s.documents pipeline (s.documents collection))

end Store

end DocStore
