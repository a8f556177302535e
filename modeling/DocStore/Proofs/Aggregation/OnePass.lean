import DocStore.Aggregation.Grouping
import Mathlib.Data.List.Induction

/-!
# Accumulators that are fed

Groups can be made in one pass: each document is fed to the accumulators of its group and forgotten
(`Tally`). What an accumulator keeps so depends on the operands of its group alone
(`Running.foldl_feed`), and the pass makes the same documents as the groups with all their members
(`onePass_eq`).
-/

namespace DocStore.Aggregation

/-! ## One accumulator -/

open Accumulator (extreme total number? sumOf mean? distinct deviation?)

/-- What an accumulator keeps of the operands that it was fed. -/
inductive Running where
  | sum (total : Total)
  | average (sum : Option Binary64) (count : Nat)
  | best (wanted : Ordering) (operand : Option Json)
  | first (operand : Option (Option Json))
  | last (operand : Option Json)
  | push (items : List Json)
  | addToSet (items : List Json)
  | deviation (sample : Bool) (values : List Binary64)
  | count (n : Nat)

namespace Running

/-- An accumulator that was fed nothing. -/
def start : Accumulator → Running
  | .sum => .sum (.exact 0)
  | .average => .average (some .zero) 0
  | .least => .best .lt none
  | .greatest => .best .gt none
  | .first => .first none
  | .last => .last none
  | .push => .push []
  | .addToSet => .addToSet []
  | .deviation sample => .deviation sample []
  | .count => .count 0

/-- The best operand after a further one. -/
def challenge (wanted : Ordering) (kept : Option Json) (v : Json) : Option Json :=
  match kept with
  | none => some v
  | some b => if v.compareTo b == wanted then some v else some b

/-- Feeds an operand, which can be missing. -/
def feed : Running → Option Json → Running
  | .sum t, operand =>
    match operand.bind number? with
    | some n => .sum (t.add n)
    | none => .sum t
  | .average s n, operand =>
    match operand.bind Json.asBinary64? with
    | some x => .average (s.bind (·.add x)) (n + 1)
    | none => .average s n
  | .best wanted kept, operand =>
    match operand.filter (!·.isNull) with
    | some v => .best wanted (challenge wanted kept v)
    | none => .best wanted kept
  | .first none, operand => .first (some operand)
  | .first (some v), _ => .first (some v)
  | .last _, operand => .last operand
  | .push items, some v => .push (items ++ [v])
  | .push items, none => .push items
  | .addToSet items, some v =>
    .addToSet (if items.any (·.equals v) then items else items ++ [v])
  | .addToSet items, none => .addToSet items
  | .deviation sample values, operand =>
    .deviation sample (values ++ (operand.bind Json.asBinary64?).toList)
  | .count n, _ => .count (n + 1)

/-- The value of a fed accumulator. -/
def value : Running → Json
  | .sum t => t.toJson
  | .average s n => if n = 0 then .null else .ofBinary64? (s.bind (·.div (.ofNat n)))
  | .best _ operand => operand.getD .null
  | .first operand => (operand.bind id).getD .null
  | .last operand => operand.getD .null
  | .push items => .arr items
  | .addToSet items => .arr items
  | .deviation sample values => .ofBinary64? (deviation? sample values)
  | .count n => .nat n

/-- What an accumulator has kept after some operands, computed from all of them. -/
def after (a : Accumulator) (operands : List (Option Json)) : Running :=
  let present := operands.filterMap id
  let doubles := present.filterMap Json.asBinary64?
  match a with
  | .sum => .sum (total present)
  | .average => .average (sumOf doubles) doubles.length
  | .least => .best .lt (extreme .lt (present.filter (!·.isNull)))
  | .greatest => .best .gt (extreme .gt (present.filter (!·.isNull)))
  | .first => .first operands.head?
  | .last => .last (operands.getLast?.bind id)
  | .push => .push present
  | .addToSet => .addToSet (distinct present)
  | .deviation sample => .deviation sample doubles
  | .count => .count operands.length

/-- What is taken of the operands is taken of each. -/
theorem filterMap_append_singleton {α : Type} (f : Json → Option α) (operands : List (Option Json))
    (o : Option Json) :
    ((operands ++ [o]).filterMap id).filterMap f =
      (operands.filterMap id).filterMap f ++ (o.bind f).toList := by
  cases o with
  | none => simp
  | some v => cases h : f v <;> simp [h]

/-- The best of some operands is challenged by each further one that is not null. -/
theorem feed_best (wanted : Ordering) (operands : List (Option Json)) (o : Option Json) :
    feed (.best wanted (extreme wanted ((operands.filterMap id).filter (!·.isNull)))) o =
      .best wanted (extreme wanted (((operands ++ [o]).filterMap id).filter (!·.isNull))) := by
  have challenged : ((operands ++ [o]).filterMap id).filter (!·.isNull) =
      (operands.filterMap id).filter (!·.isNull) ++ (o.filter (!·.isNull)).toList := by
    cases o with
    | none => simp
    | some v => cases h : v.isNull <;> simp [Option.filter, h]
  have fold (vs : List Json) : extreme wanted vs = vs.foldl (challenge wanted) none := rfl
  simp only [challenged, feed, fold, List.foldl_append]
  cases o.filter (!·.isNull) <;> rfl

/-- Feeding an operand keeps what the accumulator keeps of all. -/
theorem feed_after (a : Accumulator) (operands : List (Option Json)) (o : Option Json) :
    (after a operands).feed o = after a (operands ++ [o]) := by
  cases a with
  | sum =>
    simp only [after, feed, total, filterMap_append_singleton, List.foldl_append]
    cases o.bind number? <;> rfl
  | average =>
    simp only [after, feed, sumOf, filterMap_append_singleton, List.foldlM_append]
    cases o.bind Json.asBinary64? with
    | none => simp
    | some x => simp
  | least => exact feed_best .lt operands o
  | greatest => exact feed_best .gt operands o
  | first =>
    cases operands <;> rfl
  | last => simp [after, feed]
  | push => cases o <;> simp [after, feed]
  | addToSet =>
    cases o with
    | none => simp [after, feed]
    | some v =>
      simp only [after, feed, distinct, List.filterMap_append, List.foldl_append]
      rfl
  | deviation sample => simp only [after, feed, filterMap_append_singleton]
  | count => simp [after, feed]

/-- **What an accumulator keeps depends on the operands that it was fed alone.** -/
theorem foldl_feed (a : Accumulator) (operands : List (Option Json)) :
    operands.foldl feed (start a) = after a operands := by
  induction operands using List.reverseRecOn with
  | nil => cases a <;> rfl
  | append_singleton operands o ih =>
    rw [List.foldl_append, ih, List.foldl_cons, List.foldl_nil, feed_after]

theorem value_after (a : Accumulator) (operands : List (Option Json)) :
    (after a operands).value = a.result operands := by
  cases a with
  | average =>
    simp only [after, value, Accumulator.result, mean?]
    generalize (operands.filterMap id).filterMap Json.asBinary64? = doubles
    cases doubles with
    | nil =>
      have zero : (Binary64.ofNat 0).isZero = true := by decide +kernel
      simp [sumOf, Binary64.div, zero, Json.ofBinary64?]
    | cons x xs => rfl
  | _ => rfl

end Running

/-! ## Groups in one pass -/

/-- A group of which only the accumulators are kept. -/
structure Tally where
  key : Json
  running : List Running

section

variable (s : GroupSpec)

namespace Tally

/-- Feeds a document to every accumulator. -/
def feed (doc : Json) (t : Tally) : Tally :=
  { t with running :=
      List.zipWith (fun o r => r.feed (evaluate? doc o.operand)) s.outputs t.running }

/-- Feeds a document to the first group with an equal key, or to a new one at the end. -/
def place (key doc : Json) : List Tally → List Tally
  | [] => [feed s doc ⟨key, s.outputs.map fun o => .start o.accumulator⟩]
  | t :: rest => if t.key.equals key then feed s doc t :: rest else t :: place key doc rest

/-- The document of a group. -/
def document (t : Tally) : Json :=
  .obj (("_id", t.key) :: List.zipWith (fun o r => (o.name, r.value)) s.outputs t.running)

end Tally

/-- The documents of the groups, made in one pass over the documents. -/
def onePass (docs : List Json) : List Json :=
  (docs.foldl (fun tallies d => Tally.place s (evaluate d s.key) d tallies) []).map
    (Tally.document s)

/-- What is kept of a group. -/
def Group.tally (g : Group) : Tally :=
  ⟨g.key, s.outputs.map fun o => .after o.accumulator (g.members.map (evaluate? · o.operand))⟩

theorem feed_tally (g : Group) (doc : Json) :
    Tally.feed s doc (g.tally s) = Group.tally s { g with members := g.members ++ [doc] } := by
  rw [Tally.feed, Group.tally, Group.tally, List.zipWith_map_right, List.zipWith_self]
  simp only [Running.feed_after, List.map_append, List.map_cons, List.map_nil]

theorem place_tally (key doc : Json) (groups : List Group) :
    Tally.place s key doc (groups.map (Group.tally s)) =
      (Group.place key doc groups).map (Group.tally s) := by
  induction groups with
  | nil =>
    have opened : (⟨key, s.outputs.map fun o => .start o.accumulator⟩ : Tally) =
        Group.tally s ⟨key, []⟩ := by
      simp only [Group.tally, List.map_nil, ← Running.foldl_feed, List.foldl_nil]
    rw [List.map_nil, Tally.place, opened, feed_tally]
    rfl
  | cons g groups ih =>
    rw [List.map_cons, Tally.place, Group.place, feed_tally, ih, apply_ite (List.map (Group.tally s))]
    rfl

/-- **One pass makes the documents of the groups.** -/
theorem onePass_eq (docs : List Json) :
    onePass s docs = (Group.ofDocuments s.key docs).map s.document := by
  have kept (groups : List Group) :
      docs.foldl (fun tallies d => Tally.place s (evaluate d s.key) d tallies)
          (groups.map (Group.tally s)) =
        (docs.foldl (fun groups d => Group.place (evaluate d s.key) d groups) groups).map
          (Group.tally s) := by
    induction docs generalizing groups with
    | nil => rfl
    | cons d docs ih => rw [List.foldl_cons, place_tally, ih, List.foldl_cons]
  have document (g : Group) : Tally.document s (g.tally s) = s.document g := by
    rw [Tally.document, Group.tally, List.zipWith_map_right, List.zipWith_self]
    simp only [Running.value_after]
    rfl
  rw [onePass, ← List.map_nil, kept, List.map_map]
  exact List.map_congr_left fun g _ => document g

end

end DocStore.Aggregation
