import DocStore.Aggregation.Fault
import DocStore.Json.Printer
import DocStore.Transport.Basic
import DocStore.Update

/-!
# Refusals

Why the store refuses a command, with the codes and the wordings that callers see.
-/

namespace DocStore

/-- Why the store refuses a command. -/
inductive Refusal where
  | query (fault : Query.Fault)
  | changes (fault : Update.Fault)
  | aggregation (fault : Aggregation.Fault)
  | documentNotObject
  | projectionNotObject
  | duplicateKey (database collection : String) (id : Json)
  | watchNeedsCursor
  | noCursor (command : String)
  | cursorNotFound (cursor : Nat)

namespace Refusal

/-- The code of a refusal. -/
def code : Refusal → Int
  | .duplicateKey .. => 11000
  | .cursorNotFound _ => 43
  | _ => 2

/-- The wording of a refusal. -/
def message : Refusal → String
  | .query fault => fault.message
  | .changes fault => fault.message
  | .aggregation fault => fault.message
  | .documentNotObject => "document must be an object"
  | .projectionNotObject => "projection must be an object"
  | .duplicateKey database collection id =>
    s!"E11000 duplicate key error collection: {database}.{collection} dup key: " ++
      "\x7b _id: " ++ id.render ++ " \x7d"
  | .watchNeedsCursor => "watch is only available through a cursor"
  | .noCursor command => command ++ " does not produce a cursor"
  | .cursorNotFound cursor => s!"cursor id {cursor} not found"

/-- The failure of a refused call. -/
def toError (r : Refusal) : TransportError := .server r.code r.message

/-- The failure of a call that was refused after some documents were written. -/
def after (r : Refusal) (affected : Nat) : TransportError :=
  if affected = 0 then r.toError else .partialWrite affected r.message

end Refusal

end DocStore
