import DocStore.Json.Order
import DocStore.Json.Path
import DocStore.Regex.Meaning
import DocStore.Text.OperatorKey

/-!
# Documents that satisfy a query

A query document gives a condition for each of its fields, and joins queries with `$and`, `$or`
and `$nor`. A field that holds an array satisfies a condition when the array itself or one of
its items does.
-/

namespace DocStore

namespace Query

/-- Why a query cannot be evaluated. -/
inductive Fault where
  | notAnObject
  | notAnArray (operator : String)
  | unknownTopLevel (operator : String)
  | sizeOperand
  | patternOperand
  | badPattern (fault : Regex.Fault)
  | negationOperand
  | unknownOperator (operator : String)

/-- The wording of a fault. -/
def Fault.message : Fault → String
  | .notAnObject => "filter must be an object"
  | .notAnArray operator => operator ++ " must be an array"
  | .unknownTopLevel operator => "unknown top level operator: " ++ operator
  | .sizeOperand => "$size needs a non-negative integer"
  | .patternOperand => "$regex has to be a string"
  | .badPattern fault => "invalid regular expression: " ++ fault.message
  | .negationOperand => "$not needs an operator document"
  | .unknownOperator operator => "unknown operator: " ++ operator

/-- Whether an object consists of operators. -/
def isOperatorDocument (fs : Fields) : Bool :=
  !fs.isEmpty && fs.all fun f => Text.isOperatorKey f.1

/-- Equality of a field with a value; a missing field equals null, and an array equals a value
as a whole or by one of its items. -/
def equalTo (actual : Option Json) (expected : Json) : Bool :=
  match actual with
  | none => expected.isNull
  | some (.arr xs) => (Json.arr xs).equals expected || xs.any (·.equals expected)
  | some v => v.equals expected

/-- The values that range operators and patterns look at. -/
def candidates : Option Json → List Json
  | none => []
  | some (.arr xs) => xs
  | some v => [v]

/-- Whether some candidate of the bound's type compares with it as wanted. -/
def comparesTo (actual : Option Json) (bound : Json) (accept : Ordering → Bool) : Bool :=
  (candidates actual).any fun v => v.sameBracket bound && accept (v.compareTo bound)

/-- Whether an operand counts as true. -/
def isTruthy : Json → Bool
  | .null => false
  | .bool b => b
  | .num n => !n.toBinary64.isZero
  | _ => true

/-- The flags that an option text switches on. -/
def patternFlags (options : String) : Regex.FlagList :=
  let has (c : Char) : Bool := options.toList.contains c
  [(.caseInsensitive, has 'i'), (.multiLine, has 'm'), (.dotMatchesNewLine, has 's'),
    (.ignoreWhitespace, has 'x')]

/-- Whether a candidate is a string that a pattern matches. -/
def matchesPattern (r : Regex) : Json → Bool
  | .str s => r.isMatch s
  | _ => false

/-- The items of a list operand. -/
def listOperand (operator : String) : Json → Except Fault (List Json)
  | .arr xs => .ok xs
  | _ => .error (.notAnArray operator)

/-- Whether a field satisfies an operator other than negation by a nested document. -/
def satisfies (actual : Option Json) (options operator : String) (operand : Json) :
    Except Fault Bool :=
  match operator with
  | "$eq" => .ok (equalTo actual operand)
  | "$ne" => .ok !(equalTo actual operand)
  | "$gt" => .ok (comparesTo actual operand (· == .gt))
  | "$gte" => .ok (comparesTo actual operand (· != .lt))
  | "$lt" => .ok (comparesTo actual operand (· == .lt))
  | "$lte" => .ok (comparesTo actual operand (· != .gt))
  | "$in" => do pure ((← listOperand operator operand).any (equalTo actual))
  | "$nin" => do pure !((← listOperand operator operand).any (equalTo actual))
  | "$all" => do pure ((← listOperand operator operand).all (equalTo actual))
  | "$exists" => .ok (actual.isSome == isTruthy operand)
  | "$size" =>
    match operand.asNat64?, actual with
    | none, _ => .error .sizeOperand
    | some n, some (.arr xs) => .ok (xs.length == n)
    | some _, _ => .ok false
  | "$regex" =>
    match operand with
    | .str pattern =>
      match Regex.ofString pattern (patternFlags options) with
      | .ok r => .ok ((candidates actual).any (matchesPattern r))
      | .error fault => .error (.badPattern fault)
    | _ => .error .patternOperand
  | "$not" => .error .negationOperand
  | _ => .error (.unknownOperator operator)

/-- The options that stand beside the operators of a document. -/
def optionsOf (fs : Fields) : String :=
  match fs.get? "$options" with
  | some (.str s) => s
  | _ => ""

mutual

/-- Whether a field satisfies all operators of a document. -/
def satisfiesAll (actual : Option Json) (options : String) :
    List (String × Json) → Except Fault Bool
  | [] => .ok true
  | (operator, operand) :: rest => do
    let ok ← if operator == "$options" then pure true
      else satisfiesOperator actual options operator operand
    if ok then satisfiesAll actual options rest else pure false

/-- Whether a field satisfies one operator. -/
def satisfiesOperator (actual : Option Json) (options operator : String) :
    Json → Except Fault Bool
  | .obj inner =>
    if operator == "$not" && isOperatorDocument inner then do
      pure !(← satisfiesAll actual (optionsOf inner) inner)
    else satisfies actual options operator (.obj inner)
  | operand => satisfies actual options operator operand

end

/-- Whether a field satisfies a condition: a document of operators, or a value to equal. -/
def satisfiesCondition (actual : Option Json) : Json → Except Fault Bool
  | .obj fs =>
    if isOperatorDocument fs then satisfiesAll actual (optionsOf fs) fs
    else .ok (equalTo actual (.obj fs))
  | v => .ok (equalTo actual v)

mutual

/-- Whether a document satisfies a query. -/
def selects (doc : Json) : Json → Except Fault Bool
  | .obj conditions => selectsAll doc conditions
  | _ => .error .notAnObject

/-- Whether a document satisfies all conditions of a query, looking at them in order up to the
first that fails. -/
def selectsAll (doc : Json) : List (String × Json) → Except Fault Bool
  | [] => .ok true
  | (key, condition) :: rest => do
    let ok ← selectsOne doc key condition
    if ok then selectsAll doc rest else pure false

/-- Whether a document satisfies one condition of a query. -/
def selectsOne (doc : Json) (key : String) : Json → Except Fault Bool
  | .arr clauses =>
    match key with
    | "$and" => everyClause doc clauses
    | "$or" => someClause doc clauses
    | "$nor" => do pure !(← someClause doc clauses)
    | _ =>
      if Text.isOperatorKey key then .error (.unknownTopLevel key)
      else satisfiesCondition (doc.getPath? key) (.arr clauses)
  | condition =>
    if key == "$and" || key == "$or" || key == "$nor" then .error (.notAnArray key)
    else if Text.isOperatorKey key then .error (.unknownTopLevel key)
    else satisfiesCondition (doc.getPath? key) condition

/-- Whether a document satisfies every query of a list, up to the first that fails. -/
def everyClause (doc : Json) : List Json → Except Fault Bool
  | [] => .ok true
  | q :: qs => do
    let ok ← selects doc q
    if ok then everyClause doc qs else pure false

/-- Whether a document satisfies some query of a list, up to the first that holds. -/
def someClause (doc : Json) : List Json → Except Fault Bool
  | [] => .ok false
  | q :: qs => do
    let ok ← selects doc q
    if ok then pure true else someClause doc qs

end

/-- The documents that satisfy a query, in order; the first fault ends the search. -/
def select (q : Json) : List Json → Except Fault (List Json)
  | [] => .ok []
  | d :: ds => do
    let ok ← selects d q
    let rest ← select q ds
    pure (if ok then d :: rest else rest)

end Query

end DocStore
