import DocStore.Json.Decode

/-!
# Commands

A command is one operation of the store with everything that it needs: queries, updates and
pipelines are already documents of the store. A command has a JSON form with its operation under
`op`.
-/

namespace DocStore

/-- Which documents to read, and how. -/
structure FindQuery where
  filter : Json
  sort : Option Json := none
  projection : Option Json := none
  skip : Nat := 0
  limit : Option Nat := none

/-- An operation of the store on a collection. -/
inductive Command where
  | insert (collection : String) (documents : List Json) (ordered : Bool)
  | update (collection : String) (filter changes : Json) (multi : Bool)
  | delete (collection : String) (filter : Json) (multi : Bool)
  | find (collection : String) (query : FindQuery)
  | count (collection : String) (filter : Json)
  | distinct (collection field : String) (filter : Json)
  | aggregate (collection : String) (pipeline : List Json)
  | watch (collection : String) (pipeline : List Json)

namespace Command

/-- The collection of a command. -/
def collection : Command → String
  | .insert c .. => c
  | .update c .. => c
  | .delete c .. => c
  | .find c _ => c
  | .count c _ => c
  | .distinct c .. => c
  | .aggregate c _ => c
  | .watch c _ => c

/-- The name of the operation. -/
def name : Command → String
  | .insert .. => "insert"
  | .update .. => "update"
  | .delete .. => "delete"
  | .find .. => "find"
  | .count .. => "count"
  | .distinct .. => "distinct"
  | .aggregate .. => "aggregate"
  | .watch .. => "watch"

/-- Whether the command changes documents. -/
def isWrite : Command → Bool
  | .insert .. => true
  | .update .. => true
  | .delete .. => true
  | _ => false

/-- Whether the command can be read through a cursor. -/
def hasCursor : Command → Bool
  | .find .. => true
  | .aggregate .. => true
  | .watch .. => true
  | _ => false

/-- The query of a command that has one. -/
def filter? : Command → Option Json
  | .update _ f .. => some f
  | .delete _ f _ => some f
  | .find _ q => some q.filter
  | .count _ f => some f
  | .distinct _ _ f => some f
  | _ => none

/-- The JSON form of a command. -/
def toJson (c : Command) : Json :=
  let body : Fields := match c with
    | .insert _ documents ordered => [("documents", .arr documents), ("ordered", .bool ordered)]
    | .update _ filter changes multi =>
      [("filter", filter), ("update", changes), ("multi", .bool multi)]
    | .delete _ filter multi => [("filter", filter), ("multi", .bool multi)]
    | .find _ q =>
      ("filter", q.filter) :: (q.sort.map ("sort", ·)).toList ++
        (q.projection.map ("projection", ·)).toList ++ [("skip", .nat q.skip)] ++
        (q.limit.map fun n => ("limit", .nat n)).toList
    | .count _ filter => [("filter", filter)]
    | .distinct _ field filter => [("field", .str field), ("filter", filter)]
    | .aggregate _ pipeline => [("pipeline", .arr pipeline)]
    | .watch _ pipeline => [("pipeline", .arr pipeline)]
  .obj (("op", .str c.name) :: ("collection", .str c.collection) :: body)

/-- The command of an operation whose parts stand in a record. -/
def ofRecord? (op : String) (v : Json) : Option Command := do
  match op with
  | "insert" =>
    match ← v.recordFields? ["collection", "documents", "ordered"] with
    | [collection, documents, ordered] =>
      pure (.insert (← Json.required? Json.text? collection)
        (← Json.required? Json.items? documents) (← Json.defaulted? true Json.asBool? ordered))
    | _ => none
  | "update" =>
    match ← v.recordFields? ["collection", "filter", "update", "multi"] with
    | [collection, filter, changes, multi] =>
      pure (.update (← Json.required? Json.text? collection) (← filter) (← changes)
        (← Json.defaulted? false Json.asBool? multi))
    | _ => none
  | "delete" =>
    match ← v.recordFields? ["collection", "filter", "multi"] with
    | [collection, filter, multi] =>
      pure (.delete (← Json.required? Json.text? collection) (← filter)
        (← Json.defaulted? false Json.asBool? multi))
    | _ => none
  | "find" =>
    match ← v.recordFields? ["collection", "filter", "sort", "projection", "skip", "limit"] with
    | [collection, filter, sort, projection, skip, limit] =>
      pure (.find (← Json.required? Json.text? collection) {
        filter := ← filter
        sort := ← Json.optional? some sort
        projection := ← Json.optional? some projection
        skip := ← Json.defaulted? 0 Json.asNat64? skip
        limit := ← Json.optional? Json.asNat64? limit })
    | _ => none
  | "count" =>
    match ← v.recordFields? ["collection", "filter"] with
    | [collection, filter] => pure (.count (← Json.required? Json.text? collection) (← filter))
    | _ => none
  | "distinct" =>
    match ← v.recordFields? ["collection", "field", "filter"] with
    | [collection, field, filter] =>
      pure (.distinct (← Json.required? Json.text? collection)
        (← Json.required? Json.text? field) (← filter))
    | _ => none
  | "aggregate" =>
    match ← v.recordFields? ["collection", "pipeline"] with
    | [collection, pipeline] =>
      pure (.aggregate (← Json.required? Json.text? collection)
        (← Json.required? Json.items? pipeline))
    | _ => none
  | "watch" =>
    match ← v.recordFields? ["collection", "pipeline"] with
    | [collection, pipeline] =>
      pure (.watch (← Json.required? Json.text? collection)
        (← Json.defaulted? [] Json.items? pipeline))
    | _ => none
  | _ => none

/-- The command that a value stands for: an object with the operation under `op`, or an array
that starts with it. -/
def ofJson? : Json → Option Command
  | .obj fs => do ofRecord? (← (← Fields.get? fs "op").text?) (.obj fs)
  | .arr (op :: rest) => do ofRecord? (← op.text?) (.arr rest)
  | _ => none

end Command

end DocStore
