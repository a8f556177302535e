import DocStore.Error
import DocStore.Json.Decode
import DocStore.Transport.Basic

/-!
# Responses

Every operation ends in one response: whether it succeeded, what it returned, how many documents
it concerns, and a message. `Response.ofResult` makes the response of a call to the store;
`Response.toJson` and `Response.ofJson?` are its form as a document.
-/

namespace DocStore

/-- What a response carries. -/
inductive Payload where
  | empty
  | many (items : List Json)
  | one (item : Json)

namespace Payload

/-- The items carried. -/
def items : Payload → List Json
  | .empty => []
  | .many xs => xs
  | .one x => [x]

/-- The number of items carried. -/
def size (p : Payload) : Nat := p.items.length

/-- The payload as a value. -/
def toJson : Payload → Json
  | .empty => .null
  | .many xs => .arr xs
  | .one x => x

/-- The payload that a value stands for. -/
def ofJson : Json → Payload
  | .null => .empty
  | .arr xs => .many xs
  | x => .one x

end Payload

/-- The outcome of an operation. -/
structure Response where
  success : Bool
  payload : Payload
  /-- The documents returned by a read, or affected by a write, or counted. -/
  count : Nat
  message : String
  error : Option ErrorKind

namespace Response

/-- A number of things, in words. -/
def plural (n : Nat) (noun : String) : String :=
  if n = 1 then "1 " ++ noun else toString n ++ " " ++ noun ++ "s"

/-- A successful outcome. -/
def ok (payload : Payload) (count : Nat) (message : String) : Response :=
  ⟨true, payload, count, message, none⟩

/-- The outcome of a read of documents. -/
def documents (docs : List Json) : Response :=
  ok (.many docs) docs.length ("Found " ++ plural docs.length "document")

/-- The outcome of a read of one document. -/
def single : Option Json → Response
  | some doc => ok (.one doc) 1 "Found 1 document"
  | none => ok .empty 0 "No document found"

/-- The outcome of a failed operation, with the documents written before. -/
def failure (e : Error) (affected : Nat) : Response :=
  ⟨false, .empty, affected, e.message, some e.kind⟩

/-- The response to a reply of the store. -/
def ofReply : Reply → Response
  | .documents docs => documents docs
  | .document doc => single doc
  | .inserted ids => ok (.many ids) ids.length ("Inserted " ++ plural ids.length "document")
  | .updated matched modified =>
    ok .empty modified ("Updated " ++ plural modified "document" ++ s!" ({matched} matched)")
  | .deleted n => ok .empty n ("Deleted " ++ plural n "document")
  | .count n => ok .empty n ("Counted " ++ plural n "document")
  | .values vs => ok (.many vs) vs.length ("Found " ++ plural vs.length "distinct value")

/-- The items that a response carries. -/
def items (r : Response) : List Json := r.payload.items

/-- The first item, if there is one. -/
def first? (r : Response) : Option Json := r.items.head?

/-- A successful read cut down to its first document. -/
def toSingle (r : Response) : Response := if r.success then single r.first? else r

end Response

/-- The failure that callers see for a failed call. -/
def TransportError.toError : TransportError → Error
  | .timeout limit => .timeout limit
  | .poolExhausted => .connection "connection pool exhausted"
  | .unreachable reason => .connection reason
  | .server _ reason => .store reason
  | .partialWrite _ reason => .store reason
  | .other reason => .store reason

namespace Response

/-- The response to a call to the store. -/
def ofResult : TransportResult Reply → Response
  | .ok reply => ofReply reply
  | .error e => failure e.toError e.affected

/-- The response of documents read one by one: all of them, or the first failure. -/
def ofItems (items : List (Result Json)) : Response :=
  match items.mapM id with
  | .ok docs => documents docs
  | .error e => failure e 0

/-- The form of a response as a document. -/
def toJson (r : Response) : Json :=
  .obj ([("success", .bool r.success), ("data", r.payload.toJson), ("count", .nat r.count),
    ("message", .str r.message)] ++ (r.error.map fun k => ("error", .str k.name)).toList)

/-- The class of failures that a value names. -/
def errorKind? : Json → Option ErrorKind
  | .str s => ErrorKind.ofName? s
  | .obj [(s, .null)] => ErrorKind.ofName? s
  | _ => none

/-- The response that a document stands for. -/
def ofJson? (v : Json) : Option Response := do
  match ← v.recordFields? ["success", "data", "count", "message", "error"] with
  | [success, data, count, message, error] =>
    pure {
      success := ← Json.required? Json.asBool? success
      payload := .ofJson (← data)
      count := ← Json.required? Json.asNat64? count
      message := ← Json.required? Json.text? message
      error := ← Json.optional? errorKind? error }
  | _ => none

end Response

end DocStore
