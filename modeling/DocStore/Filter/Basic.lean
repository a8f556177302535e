import DocStore.Filter.Operator

/-!
# Filters

A filter selects documents by a mapping from keys to operands, all of which must hold, and by
any number of trees that combine predicates with and, or and not.
-/

namespace DocStore

/-- A combination of predicates. -/
inductive Node where
  | leaf (p : Predicate)
  | and (children : List Node)
  | or (children : List Node)
  | not (child : Node)

namespace Node

/-- The predicate of a key and an operand as a tree. -/
def ofKey (key : String) (value : Json) : Result Node := do
  pure (.leaf (← Predicate.parse key value))

/-- The predicates of a mapping, in its order. -/
def leavesOf : Json → Result (List Node)
  | .obj fs => fs.mapM fun (k, v) => ofKey k v
  | v => .error (.validation "<predicates>" .fieldPredicates (.value v))

/-- Every predicate of a mapping must hold. -/
def allOf (predicates : Json) : Result Node := do pure (.and (← leavesOf predicates))

/-- Some predicate of a mapping must hold. -/
def anyOf (predicates : Json) : Result Node := do pure (.or (← leavesOf predicates))

mutual

/-- The depth of a tree; a predicate has depth one. -/
def depth : Node → Nat
  | .leaf _ => 1
  | .and children => 1 + depthOfChildren children
  | .or children => 1 + depthOfChildren children
  | .not child => 1 + child.depth

/-- The depth of the deepest tree. -/
def depthOfChildren : List Node → Nat
  | [] => 0
  | n :: ns => max n.depth (depthOfChildren ns)

end

end Node

/-- A mapping of predicates and further trees, all of which must hold. -/
structure Filter where
  predicates : Fields := []
  combinators : List Node := []

namespace Filter

/-- The filter of a mapping; its keys are checked, and null stands for the empty mapping. -/
def ofPredicates : Json → Result Filter
  | .obj fs => do
    fs.forM fun (k, _) => (Predicate.parseKey k).map fun _ => ()
    pure { predicates := fs }
  | .null => .ok {}
  | v => .error (.validation "<predicates>" .fieldPredicates (.value v))

/-- The filter on an identifier. -/
def byId (id : Json) : Filter := { predicates := [("_id", id)] }

/-- The filter with one more predicate. -/
def addPredicate (f : Filter) (key : String) (value : Json) : Result Filter := do
  let _ ← Predicate.parseKey key
  pure { f with predicates := f.predicates.insert key value }

/-- The filter with one more tree. -/
def combine (f : Filter) (n : Node) : Filter := { f with combinators := f.combinators ++ [n] }

/-- Whether the filter selects every document. -/
def isEmpty (f : Filter) : Bool := f.predicates.isEmpty && f.combinators.isEmpty

end Filter

end DocStore
