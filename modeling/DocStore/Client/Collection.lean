import DocStore.Client.Find
import DocStore.Identifier
import DocStore.Schema.Validation

/-!
# Collections

The operations on one collection. Input that does not fit the schema of the collection, and
filters and updates that cannot be compiled, are refused here; what comes out are commands.
-/

namespace DocStore

/-- A collection, with its schema if it has one. -/
structure Collection where
  name : String
  schema : Option Schema := none

namespace Collection

/-- The types of the fields. -/
def types (c : Collection) : FieldLookup := .ofSchema? c.schema

/-- Checks a new document and gives it an identifier at the front, if it has none. -/
def prepare (c : Collection) (doc : Json) (ids : IdSupply) : Result (Json × IdSupply) := do
  let doc ← match c.schema with
    | some schema => schema.validateDocument doc
    | none => pure doc
  match doc with
  | .obj fs =>
    let (_, fs, ids) := Fields.identify true fs ids
    pure (.obj fs, ids)
  | v => throw (.validation "<document>" .object (.value v))

/-- Checks new documents one after the other. -/
def prepareAll (c : Collection) : List Json → IdSupply → Result (List Json × IdSupply)
  | [], ids => .ok ([], ids)
  | doc :: rest, ids => do
    let (doc, ids) ← c.prepare doc ids
    let (docs, ids) ← c.prepareAll rest ids
    pure (doc :: docs, ids)

/-- Inserts one document. -/
def insertOne (c : Collection) (doc : Json) (ids : IdSupply) : Result (Command × IdSupply) := do
  let (doc, ids) ← c.prepare doc ids
  pure (.insert c.name [doc] true, ids)

/-- Inserts documents in order, up to the first that the store refuses. -/
def insertMany (c : Collection) (docs : List Json) (ids : IdSupply) :
    Result (Command × IdSupply) := do
  if docs.isEmpty then throw (.validation "<documents>" .someDocument .emptyList)
  let (docs, ids) ← c.prepareAll docs ids
  pure (.insert c.name docs true, ids)

/-- An update as a document of operators; plain fields are to be set. -/
def operatorsOf (changes : Json) : Result Json :=
  match changes with
  | .obj fs =>
    let isOperator (f : String × Json) : Bool := Text.isOperatorKey f.1
    if fs.isEmpty then .error (.validation "<update>" .someField .emptyObject)
    else if fs.all isOperator then .ok (.obj fs)
    else if fs.any isOperator then .error (.validation "<update>" .oneUpdateForm .mixedUpdate)
    else .ok (.obj [("$set", .obj fs)])
  | v => .error (.validation "<update>" .object (.value v))

/-- Updates the documents that a filter selects, or the first of them. -/
def update (c : Collection) (f : Filter) (changes : Json) (multi : Bool) : Result Command := do
  let query ← f.toQuery c.types
  let operators ← operatorsOf changes
  let operators ← match c.schema with
    | some schema => schema.validateUpdate operators
    | none => pure operators
  pure (.update c.name query operators multi)

/-- Deletes the documents that a filter selects, or the first of them. -/
def delete (c : Collection) (f : Filter) (multi : Bool) : Result Command := do
  pure (.delete c.name (← f.toQuery c.types) multi)

/-- A query for the documents that a filter selects. -/
def find (c : Collection) (f : Filter) : Result Find := do
  pure { collection := c.name, filter := ← f.toQuery c.types }

/-- Counts the documents that a filter selects. -/
def count (c : Collection) (f : Filter) : Result Command := do
  pure (.count c.name (← f.toQuery c.types))

/-- An empty pipeline whose filters know the schema. -/
def pipeline (c : Collection) : Pipeline := { schema := c.schema }

/-- Runs a pipeline on the documents. -/
def aggregate (c : Collection) (p : Pipeline) : Command := .aggregate c.name p.toJson

/-- Follows the changes, through a pipeline if there is one. -/
def watch (c : Collection) (p : Option Pipeline) : Command :=
  .watch c.name ((p.map Pipeline.toJson).getD [])

end Collection

namespace Registry

/-- A collection with the schema registered for it. -/
def collection (r : Registry) (name : String) : Collection := ⟨name, r.get? name⟩

end Registry

end DocStore
