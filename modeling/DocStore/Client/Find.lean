import DocStore.Command
import DocStore.Pipeline.Basic
import DocStore.Text.Blank
import DocStore.Text.Split

/-!
# Find queries

A query for documents is built step by step: an order, the fields wanted, and the page. It gives
the commands that read its documents, its first document, their number, or the distinct values of
a field.
-/

namespace DocStore

/-- A query for documents of a collection. -/
structure Find where
  collection : String
  filter : Json
  sort : List (String × Int) := []
  projection : Option Fields := none
  skip : Nat := 0
  limit : Option Nat := none

namespace Find

/-- Sorts by fields with directions; replaces an earlier order. -/
def sortBy (q : Find) (keys : List (String × Int)) : Result Find := do
  checkSortKeys false [] keys
  pure { q with sort := keys }

/-- The field and the direction that a part of a written order names. -/
def sortKey (part : List Char) : String × Int :=
  match Text.trim part with
  | '-' :: name => (String.ofList name, -1)
  | '+' :: name => (String.ofList name, 1)
  | name => (String.ofList name, 1)

/-- Sorts by a written order: fields between commas, descending after a minus sign. -/
def sortByText (q : Find) (order : String) : Result Find :=
  q.sortBy ((Text.pieces ',' order.toList).map sortKey)

/-- The field that a part of a projection names, and whether it is wanted. -/
def projectionKey (part : String) : String × Bool :=
  match part.toList with
  | '-' :: name => (String.ofList name, false)
  | _ => (part, true)

/-- Returns only the fields listed, or all but those listed after a minus sign. -/
def project (q : Find) (parts : List String) : Result Find := do
  let listed := parts.map projectionKey
  if listed.any fun f => f.1.isEmpty then throw (.compile (.projectFieldEmpty false))
  let others := listed.filter fun f => f.1 != "_id"
  if others.any (·.2) && others.any (!·.2) then throw (.compile (.projectMixed false))
  let fields := Fields.ofList (listed.map fun (name, wanted) =>
    (name, .int (if wanted then 1 else 0)))
  pure { q with projection := if fields.isEmpty then none else some fields }

/-- Leaves out the first documents. -/
def skipping (q : Find) (n : Nat) : Find := { q with skip := n }

/-- Returns no more than a number of documents; zero means all. -/
def limitedTo (q : Find) (n : Nat) : Find := { q with limit := if n = 0 then none else some n }

/-- The order as a document, if there is one. -/
def sortJson (q : Find) : Option Json :=
  if q.sort.isEmpty then none
  else some (.obj (Fields.ofList (q.sort.map fun (field, direction) => (field, .int direction))))

/-- The command that reads documents, with a limit of its own. -/
def commandWithLimit (q : Find) (limit : Option Nat) : Command :=
  .find q.collection {
    filter := q.filter
    sort := q.sortJson
    projection := q.projection.map .obj
    skip := q.skip
    limit }

/-- The command that reads the documents. -/
def command (q : Find) : Command := q.commandWithLimit q.limit

/-- The command that reads the first document. -/
def firstCommand (q : Find) : Command := q.commandWithLimit (some 1)

/-- The command that counts all documents that the filter selects. -/
def countCommand (q : Find) : Command := .count q.collection q.filter

/-- The command that reads the distinct values of a field. -/
def distinctCommand (q : Find) (field : String) : Command := .distinct q.collection field q.filter

end Find

end DocStore
