import DocStore.Aggregation.Fault

/-!
# Sorting

Documents are sorted by the values of some fields, earlier fields first, a missing value before
all others. The sort is stable: documents that compare equal keep their order.
-/

namespace DocStore.Aggregation

/-- A field to sort by. -/
structure SortKey where
  field : String
  descending : Bool

namespace SortKey

/-- Reads a field to sort by. -/
def ofField (field : String) (direction : Json) : Except Fault SortKey :=
  match direction.asInt64? with
  | some 1 => .ok ⟨field, false⟩
  | some (-1) => .ok ⟨field, true⟩
  | _ => .error (.sortDirection field)

/-- The order of two documents by one field. -/
def order (k : SortKey) (a b : Json) : Ordering :=
  let o := Json.compareOptional (a.getPath? k.field) (b.getPath? k.field)
  if k.descending then o.swap else o

end SortKey

/-- The order of two documents by several fields. -/
def orderBy (keys : List SortKey) (a b : Json) : Ordering :=
  keys.foldr (fun k rest => (k.order a b).then rest) .eq

/-- Puts an item after all items that it is not less than, into a list sorted from its greatest
item down. -/
def insertDown {α : Type} (less : α → α → Bool) (x : α) : List α → List α
  | [] => [x]
  | y :: ys => if less x y then y :: insertDown less x ys else x :: y :: ys

/-- Sorts a list, keeping the order of items neither of which is less. This is what any stable sort
makes of items that `less` puts into a total preorder. Of other items it still makes a list, where a
sort may also come to another one or to none. -/
def sortBy {α : Type} (less : α → α → Bool) (xs : List α) : List α :=
  (xs.foldl (fun sorted x => insertDown less x sorted) []).reverse

/-- Sorts documents by a specification. -/
def sort (spec : Json) (docs : List Json) : Except Fault (List Json) :=
  match spec with
  | .obj fs => do
    let keys ← fs.mapM fun (field, direction) => SortKey.ofField field direction
    pure (sortBy (fun a b => orderBy keys a b == .lt) docs)
  | _ => .error .sortNotObject

end DocStore.Aggregation
