import DocStore.Filter.Query
import DocStore.Json.Path
import DocStore.Pipeline.Stage

/-!
# Aggregation pipelines

A pipeline is built stage by stage, and each stage is checked when it is added. The pipeline
keeps track of the aliases that its stages have declared, the only fields that `unwind` accepts.
-/

namespace DocStore

/-- Checks the order of a sort after the fields already seen: fields with `1` or `-1`, and no
field twice. -/
def checkSortKeys (stage : Bool) : List String → List (String × Int) → Result Unit
  | _, [] => .ok ()
  | seen, (field, direction) :: rest =>
    if field.isEmpty then .error (.compile (.sortFieldEmpty stage))
    else if direction ≠ 1 ∧ direction ≠ -1 then
      .error (.compile (.sortDirection stage field direction))
    else if seen.contains field then .error (.compile (.sortFieldTwice stage field))
    else checkSortKeys stage (field :: seen) rest

/-- A pipeline under construction. -/
structure Pipeline where
  stages : List Stage := []
  /-- The fields that `unwind` accepts. -/
  aliases : List String := []
  /-- The schema that operands of `$match` are coerced through. -/
  schema : Option Schema := none

namespace Pipeline

/-- The pipeline with one more stage. -/
def push (p : Pipeline) (s : Stage) : Pipeline := { p with stages := p.stages ++ [s] }

/-- Selects the documents of a filter. -/
def selectFilter (p : Pipeline) (f : Filter) : Result Pipeline := do
  pure (p.push (.select (← f.toQuery (FieldLookup.ofSchema? p.schema))))

/-- Selects documents by a mapping of predicates. -/
def selectPredicates (p : Pipeline) (predicates : Json) : Result Pipeline := do
  p.selectFilter (← Filter.ofPredicates predicates)

/-- Checks the name of a computed field. -/
def checkOutputName (name : String) : Result Unit :=
  if name.isEmpty then .error (.compile .emptyOutputName)
  else if name == "_id" then .error (.compile .reservedOutputName)
  else if name.toList.contains '.' then .error (.compile (.dottedOutputName name))
  else if Text.isOperatorKey name then .error (.compile (.operatorOutputName name))
  else .ok ()

/-- Checks an accumulator: one known operator. -/
def checkAccumulator (name : String) (spec : Json) : Result Unit :=
  match spec with
  | .obj [(operator, _)] =>
    if Stage.accumulators.contains operator then .ok ()
    else .error (.compile (.unknownAccumulator operator name Stage.accumulators))
  | _ => .error (.compile (.accumulatorShape name))

/-- Groups the documents by a key; only the outputs of the group are aliases afterwards. -/
def group (p : Pipeline) (key : Option Json) (accumulators : Json) : Result Pipeline :=
  match accumulators with
  | .obj fs => do
    fs.forM fun (name, spec) => do
      checkOutputName name
      checkAccumulator name spec
    let declared : Pipeline := { p with aliases := fs.map (·.1) }
    pure (declared.push (.group (key.getD .null) fs))
  | v => .error (.compile (.accumulatorsNotObject v))

/-- Sorts the documents; earlier fields come first in the order. -/
def sort (p : Pipeline) (keys : List (String × Int)) : Result Pipeline := do
  if keys.isEmpty then throw (.compile .sortEmpty)
  checkSortKeys true [] keys
  pure (p.push (.sort keys))

/-- Keeps the first documents. -/
def limit (p : Pipeline) (n : Nat) : Result Pipeline :=
  if n = 0 then .error (.compile .limitZero) else .ok (p.push (.limit n))

/-- Drops the first documents. -/
def skip (p : Pipeline) (n : Nat) : Pipeline := p.push (.skip n)

/-- Joins the documents of another collection under an alias. -/
def lookup (p : Pipeline) (source localField foreignField target : String) : Result Pipeline := do
  [("from", source), ("localField", localField), ("foreignField", foreignField),
    ("as", target)].forM fun (parameter, value) =>
      if value.isEmpty then throw (.compile (.lookupEmpty parameter)) else pure ()
  checkOutputName target
  let declared : Pipeline := { p with aliases := target :: p.aliases }
  pure (declared.push (.lookup source localField foreignField target))

/-- A path without a leading dollar sign. -/
def unwindPathOf (path : String) : Result String :=
  let bare := match path.toList with
    | '$' :: rest => String.ofList rest
    | _ => path
  if bare.isEmpty then .error (.compile .unwindEmpty) else .ok bare

/-- Unwinds a field that an earlier stage declared. -/
def unwind (p : Pipeline) (name : String) : Result Pipeline := do
  let path ← unwindPathOf name
  if p.aliases.contains (Path.root path) then pure (p.push (.unwind path))
  else throw (.compile (.unwindUndeclared (Path.root path)))

/-- Unwinds any field. -/
def unwindPath (p : Pipeline) (path : String) : Result Pipeline := do
  pure (p.push (.unwind (← unwindPathOf path)))

/-- What a projection does with a field: whether its value says that the field is kept. -/
def keepsField? : Json → Option Bool
  | .bool b => some b
  | .num n => some !n.toBinary64.isZero
  | .str _ => some true
  | .obj _ => some true
  | _ => none

/-- The fields of a projection other than the identifier, each with whether it is kept. -/
def projected : Fields → Result (List (String × Bool))
  | [] => .ok []
  | (field, spec) :: rest =>
    if field.isEmpty then .error (.compile (.projectFieldEmpty true))
    else match keepsField? spec with
      | none => .error (.compile (.projectValue field spec))
      | some keeps => do
        let others ← projected rest
        pure (if field == "_id" then others else (field, keeps) :: others)

/-- Keeps or drops fields. Aliases stay while their field does. -/
def project (p : Pipeline) (spec : Json) : Result Pipeline :=
  match spec with
  | .obj fs => do
    if fs.isEmpty then throw (.compile .projectEmpty)
    let listed ← projected fs
    let kept := listed.filter (·.2)
    let dropped := listed.filter (!·.2)
    if !kept.isEmpty && !dropped.isEmpty then throw (.compile (.projectMixed true))
    let roots := kept.map fun f => Path.root f.1
    let gone := (dropped.filter fun f => Path.root f.1 == f.1).map (·.1)
    let aliases :=
      if kept.isEmpty then p.aliases.filter fun a => !gone.contains a
      else p.aliases.filter fun a => roots.contains a
    let declared : Pipeline := { p with aliases := aliases }
    pure (declared.push (.project fs))
  | v => .error (.compile (.projectNotObject v))

/-- The documents of the stages, in order. -/
def toJson (p : Pipeline) : List Json := p.stages.map Stage.toJson

end Pipeline

end DocStore
