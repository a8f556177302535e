import DocStore.Aggregation.Accumulator
import DocStore.Aggregation.Expression
import DocStore.Aggregation.Fault

/-!
# Groups

Documents with equal keys form a group. The groups stand in the order in which their keys first
appear, and each becomes one document with its key and the results of its accumulators.
-/

namespace DocStore.Aggregation

/-- Documents with one key. -/
structure Group where
  key : Json
  members : List Json

/-- A computed field of a group. -/
structure Output where
  name : String
  accumulator : Accumulator
  /-- The expression whose values are accumulated. -/
  operand : Json

/-- How documents are grouped. -/
structure GroupSpec where
  key : Json
  outputs : List Output

namespace Group

/-- Adds a document to the first group with an equal key, or as a new group at the end. -/
def place (key doc : Json) : List Group → List Group
  | [] => [⟨key, [doc]⟩]
  | g :: rest =>
    if g.key.equals key then { g with members := g.members ++ [doc] } :: rest
    else g :: place key doc rest

/-- The groups of some documents by a key expression; a missing key is null. -/
def ofDocuments (key : Json) (docs : List Json) : List Group :=
  docs.foldl (fun groups d => place (evaluate d key) d groups) []

end Group

/-- The value of a computed field. -/
def Output.value (o : Output) (members : List Json) : Json :=
  o.accumulator.result (members.map fun d => evaluate? d o.operand)

namespace GroupSpec

/-- Reads a computed field. -/
def output (name : String) (spec : Json) : Except Fault Output :=
  match singleField? spec with
  | none => .error (.accumulatorShape name)
  | some (operator, operand) =>
    match Accumulator.ofName? operator with
    | some a => .ok ⟨name, a, operand⟩
    | none => .error (.unknownAccumulator operator)

/-- Reads how documents are grouped. -/
def ofJson (spec : Json) : Except Fault GroupSpec :=
  match spec with
  | .obj fs =>
    match Fields.get? fs "_id" with
    | none => .error .groupWithoutKey
    | some key => do
      let outputs ← (fs.filter (·.1 != "_id")).mapM fun (name, acc) => output name acc
      pure ⟨key, outputs⟩
  | _ => .error .groupNotObject

/-- The document of a group. -/
def document (s : GroupSpec) (g : Group) : Json :=
  .obj (("_id", g.key) :: s.outputs.map fun o => (o.name, o.value g.members))

end GroupSpec

/-- Groups documents. -/
def group (spec : Json) (docs : List Json) : Except Fault (List Json) := do
  let s ← GroupSpec.ofJson spec
  pure ((Group.ofDocuments s.key docs).map s.document)

end DocStore.Aggregation
