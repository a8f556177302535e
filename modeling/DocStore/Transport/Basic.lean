import DocStore.Json

/-!
# Answers of the store

What a call to the store brings back: a reply to a command, a batch of a cursor, or the reason
why there is neither.
-/

namespace DocStore

/-- The reply to a command. -/
inductive Reply where
  | documents (docs : List Json)
  | document (doc : Option Json)
  | inserted (ids : List Json)
  | updated (matched modified : Nat)
  | deleted (n : Nat)
  | count (n : Nat)
  | values (vs : List Json)

/-- A batch of documents read from a cursor. -/
structure Batch where
  /-- The cursor on the store, zero once it is exhausted. -/
  cursor : Nat
  documents : List Json

/-- Whether a batch is the last of its cursor. -/
def Batch.isLast (b : Batch) : Bool := b.cursor == 0

/-- Why a call to the store failed. -/
inductive TransportError where
  /-- The deadline, in milliseconds, has passed. -/
  | timeout (limit : Nat)
  | poolExhausted
  | unreachable (reason : String)
  /-- The store refused the command. -/
  | server (code : Int) (reason : String)
  /-- The store stopped after some documents were written. -/
  | partialWrite (affected : Nat) (reason : String)
  | other (reason : String)

namespace TransportError

/-- The wording of a failed call. -/
def message : TransportError → String
  | .timeout limit => s!"transport deadline of {limit}ms exceeded"
  | .poolExhausted => "connection pool exhausted"
  | .unreachable reason => "transport unreachable: " ++ reason
  | .server _ reason => reason
  | .partialWrite _ reason => reason
  | .other reason => reason

/-- Whether the deadline had passed. -/
def isTimeout : TransportError → Bool
  | .timeout _ => true
  | _ => false

/-- How many documents were written before the failure. -/
def affected : TransportError → Nat
  | .partialWrite n _ => n
  | _ => 0

end TransportError

/-- The result of a call to the store. -/
abbrev TransportResult (α : Type) := Except TransportError α

/-- Whether a call ended because its deadline had passed. -/
def TransportResult.isTimeout {α : Type} : TransportResult α → Bool
  | .error e => e.isTimeout
  | .ok _ => false

end DocStore
