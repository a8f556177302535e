import DocStore.Json
import DocStore.Timestamp

/-!
# Change events

Every document that is inserted, changed or removed leaves an event in the log of the store.
-/

namespace DocStore

/-- What happened to a document. -/
inductive Change where
  | inserted (doc : Json)
  | updated (doc : Json)
  | removed

namespace Change

/-- The name of the kind of change. -/
def name : Change → String
  | .inserted _ => "insert"
  | .updated _ => "update"
  | .removed => "delete"

/-- The document as it is after the change. -/
def document? : Change → Option Json
  | .inserted doc => some doc
  | .updated doc => some doc
  | .removed => none

end Change

/-- A change of a document. -/
structure ChangeEvent where
  database : String
  collection : String
  /-- The identifier of the document. -/
  id : Json
  change : Change
  /-- When it happened, in milliseconds since the beginning of the year 1970. -/
  time : Nat

namespace ChangeEvent

/-- The document of an event. -/
def toJson (e : ChangeEvent) : Json :=
  .obj ([("operationType", .str e.change.name),
    ("ns", .obj [("db", .str e.database), ("coll", .str e.collection)]),
    ("documentKey", .obj [("_id", e.id)]),
    ("wallTime", .str (Timestamp.ofMillis e.time).text)] ++
    (e.change.document?.map fun doc => ("fullDocument", doc)).toList)

end ChangeEvent

end DocStore
