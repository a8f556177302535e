import DocStore.Json.Order

/-!
# Accumulators

An accumulator turns the operands of a group, one for each document and some of them missing,
into one value. Sums of integers are exact as long as they fit 64 bits; a result outside the
finite doubles is null.
-/

namespace DocStore.Aggregation

/-- A way to combine the operands of a group. -/
inductive Accumulator where
  | sum
  | average
  | least
  | greatest
  | first
  | last
  | push
  | addToSet
  | deviation (sample : Bool)
  | count
deriving DecidableEq, Repr

/-- A sum so far: exact, or a double once it did not fit or met one. -/
inductive Total where
  | exact (n : Int)
  | inexact (x : Option Binary64)

namespace Total

/-- The sum with one more number. -/
def add (t : Total) (n : Number) : Total :=
  match t, n.asInt64? with
  | .exact s, some i =>
    if FitsInt64 (s + i) then .exact (s + i)
    else .inexact ((Binary64.ofInt s).add (.ofInt i))
  | .exact s, none => .inexact ((Binary64.ofInt s).add n.toBinary64)
  | .inexact x, _ => .inexact (x.bind (·.add n.toBinary64))

/-- The sum as a value. -/
def toJson : Total → Json
  | .exact n => .int n
  | .inexact x => .ofBinary64? x

end Total

namespace Accumulator

/-- The accumulator with the given name. -/
def ofName? : String → Option Accumulator
  | "$sum" => some .sum
  | "$avg" => some .average
  | "$min" => some .least
  | "$max" => some .greatest
  | "$first" => some .first
  | "$last" => some .last
  | "$push" => some .push
  | "$addToSet" => some .addToSet
  | "$stdDevPop" => some (.deviation false)
  | "$stdDevSamp" => some (.deviation true)
  | "$count" => some .count
  | _ => none

/-- The number that a value is. -/
def number? : Json → Option Number
  | .num n => some n
  | _ => none

/-- The sum of the numbers among the operands. -/
def total (operands : List Json) : Total := (operands.filterMap number?).foldl Total.add (.exact 0)

/-- The sum of doubles, rounded at each step. -/
def sumOf (xs : List Binary64) : Option Binary64 := xs.foldlM Binary64.add Binary64.zero

/-- The mean of some doubles. -/
def mean? (xs : List Binary64) : Option Binary64 := do (← sumOf xs).div (.ofNat xs.length)

/-- The standard deviation, of a whole population or of a sample of two or more. -/
def deviation? (sample : Bool) (xs : List Binary64) : Option Binary64 := do
  let mean ← mean? xs
  let squares ← xs.mapM fun x => do
    let d ← x.sub mean
    d.mul d
  (← (← sumOf squares).div (.ofNat (if sample then xs.length - 1 else xs.length))).sqrt

/-- The operand that wins a comparison against all others; of equal ones the first. -/
def extreme (wanted : Ordering) (operands : List Json) : Option Json :=
  operands.foldl (fun best v =>
    match best with
    | none => some v
    | some b => if v.compareTo b == wanted then some v else some b) none

/-- The operands without those that equal an earlier one. -/
def distinct (operands : List Json) : List Json :=
  operands.foldl (fun seen v => if seen.any (·.equals v) then seen else seen ++ [v]) []

/-- The result over the operands of a group in the order of its documents. -/
def result (a : Accumulator) (operands : List (Option Json)) : Json :=
  let present := operands.filterMap id
  let doubles := present.filterMap Json.asBinary64?
  match a with
  | .sum => (total present).toJson
  | .average => .ofBinary64? (mean? doubles)
  | .least => (extreme .lt (present.filter (!·.isNull))).getD .null
  | .greatest => (extreme .gt (present.filter (!·.isNull))).getD .null
  | .first => (operands.head?.bind id).getD .null
  | .last => (operands.getLast?.bind id).getD .null
  | .push => .arr present
  | .addToSet => .arr (distinct present)
  | .deviation sample => .ofBinary64? (deviation? sample doubles)
  | .count => .nat operands.length

end Accumulator

end DocStore.Aggregation
