import DocStore.Filter.Query
import DocStore.Query.Match
import Mathlib.Tactic.Tauto

/-!
# What filters mean

The meaning of a filter on a document, said without queries: an operator relates the value at a
field to its operand, a tree combines what its predicates say, and a filter is the conjunction of
its mapping and its trees. `Filter.Holds` is what the compiled query of a filter must decide.

A substring is searched for as a pattern, and a pattern has a limited size. `Filter.Stalls` says
that the search of a document comes to a substring that is too large, before anything else has
settled the matter.
-/

namespace DocStore

namespace Operator

/-- A value that is looked at on its own: an item of an array, any other value itself. -/
def Candidate (actual : Option Json) (v : Json) : Prop :=
  match actual with
  | none => False
  | some (.arr xs) => v ∈ xs
  | some w => v = w

/-- A field equals a value: as a whole, by an item of its array, or as null when it is missing. -/
def Equals (actual : Option Json) (w : Json) : Prop :=
  match actual with
  | none => w = .null
  | some v => v.equals w = true ∨ ∃ xs, v = .arr xs ∧ ∃ x ∈ xs, x.equals w = true

/-- Some candidate of the bound's type stands in one of the given orders to the bound. -/
def Compares (actual : Option Json) (bound : Json) (orders : List Ordering) : Prop :=
  ∃ v, Candidate actual v ∧ v.rank = bound.rank ∧ v.compareTo bound ∈ orders

/-- What an operator says about the value at a field and its operand. -/
def Holds (actual : Option Json) (operand : Json) : Operator → Prop
  | .eq => Equals actual operand
  | .gt => Compares actual operand [.gt]
  | .gte => Compares actual operand [.gt, .eq]
  | .lt => Compares actual operand [.lt]
  | .lte => Compares actual operand [.lt, .eq]
  | .isIn => ∃ xs, operand = .arr xs ∧ ∃ w ∈ xs, Equals actual w
  | .notIn => ∃ xs, operand = .arr xs ∧ ∀ w ∈ xs, ¬ Equals actual w
  | .regex => ∃ pattern r s, operand = .str pattern ∧ Regex.ofString pattern = .ok r ∧
      Candidate actual (.str s) ∧ r.isMatch s = true
  | .contains => ∃ needle s, operand = .str needle ∧
      Candidate actual (.str s) ∧ needle.toList <:+: s.toList
  | .exists => ∃ b, operand = .bool b ∧ actual.isSome = b

end Operator

/-- In a list that is worked off in order as long as items let it go on, something is reached. -/
def Query.Reaches {α : Type} (goesOn reached : α → Prop) (xs : List α) : Prop :=
  ∃ before x after, xs = before ++ x :: after ∧ (∀ y ∈ before, goesOn y) ∧ reached x

namespace Query

variable {α : Type} {goesOn reached : α → Prop}

theorem reaches_nil : ¬ Reaches goesOn reached [] := by
  simp [Reaches]

theorem reaches_cons {x : α} {xs : List α} :
    Reaches goesOn reached (x :: xs) ↔ reached x ∨ goesOn x ∧ Reaches goesOn reached xs := by
  constructor
  · rintro ⟨_ | ⟨y, before⟩, z, after, e, on, hit⟩
    · cases e
      exact .inl hit
    · cases e
      obtain ⟨here, there⟩ := List.forall_mem_cons.1 on
      exact .inr ⟨here, before, z, after, rfl, there, hit⟩
  · rintro (hit | ⟨here, before, z, after, rfl, there, hit⟩)
    · exact ⟨[], x, xs, rfl, by simp, hit⟩
    · exact ⟨x :: before, z, after, rfl, List.forall_mem_cons.2 ⟨here, there⟩, hit⟩

/-- In two lists put together, the place is in the first, or in the second behind a first list that
is gone through. -/
theorem reaches_append {xs ys : List α} :
    Reaches goesOn reached (xs ++ ys) ↔
      Reaches goesOn reached xs ∨ (∀ x ∈ xs, goesOn x) ∧ Reaches goesOn reached ys := by
  induction xs with
  | nil => simp [reaches_nil]
  | cons x xs ih =>
    simp only [List.cons_append, reaches_cons, ih, List.forall_mem_cons]
    tauto

end Query

namespace Predicate

/-- The operand that a predicate speaks of: coerced, and a substring as it was given. -/
def meant (types : FieldLookup) (p : Predicate) : Result Json :=
  match p.operator with
  | .contains => .ok p.value
  | _ => p.operand types

/-- A predicate is true of a document. -/
def Holds (types : FieldLookup) (doc : Json) (p : Predicate) : Prop :=
  ∃ w, p.meant types = .ok w ∧ p.operator.Holds (doc.getPath? p.field) w

/-- A pattern can be built from the substring of the predicate, if it has one. -/
def Searchable (p : Predicate) : Prop :=
  p.operator = .contains → ∀ needle, p.value = .str needle →
    ∃ r, Regex.ofString (Regex.escape needle) = .ok r

/-- Adds a predicate to the block of its field; new fields come last. -/
def addToBlock (p : Predicate) : List (List Predicate) → List (List Predicate)
  | [] => [[p]]
  | b :: bs => if b.any (·.field == p.field) then (b ++ [p]) :: bs else b :: addToBlock p bs

/-- The predicates of a mapping in the order in which they are looked at: field by field. -/
def arranged (ps : List Predicate) : List Predicate :=
  (ps.foldl (fun bs p => addToBlock p bs) []).flatten

end Predicate

namespace Node

/-- A tree is true of a document. -/
def Holds (types : FieldLookup) (doc : Json) : Node → Prop
  | .leaf p => p.Holds types doc
  | .and children => ∀ child ∈ children, child.Holds types doc
  | .or children => ∃ child, ∃ _ : child ∈ children, child.Holds types doc
  | .not child => ¬ child.Holds types doc

/-- The search through a tree comes to a substring that is too large: conjunctions go on as long
as their parts hold, disjunctions as long as they fail. -/
inductive Stalls (types : FieldLookup) (doc : Json) : Node → Prop where
  | leaf {p : Predicate} : ¬ p.Searchable → Stalls types doc (.leaf p)
  | and {before after : List Node} {child : Node} : (∀ n ∈ before, n.Holds types doc) →
      Stalls types doc child → Stalls types doc (.and (before ++ child :: after))
  | or {before after : List Node} {child : Node} : (∀ n ∈ before, ¬ n.Holds types doc) →
      Stalls types doc child → Stalls types doc (.or (before ++ child :: after))
  | not {child : Node} : Stalls types doc child → Stalls types doc (.not child)

/-- A predicate stands in a tree. -/
inductive Mentions (p : Predicate) : Node → Prop where
  | leaf : Mentions p (.leaf p)
  | and {child : Node} {children : List Node} :
      child ∈ children → Mentions p child → Mentions p (.and children)
  | or {child : Node} {children : List Node} :
      child ∈ children → Mentions p child → Mentions p (.or children)
  | not {child : Node} : Mentions p child → Mentions p (.not child)

end Node

namespace Filter

/-- The mapping of a filter is true of a document. -/
def MappingHolds (types : FieldLookup) (doc : Json) (f : Filter) : Prop :=
  ∀ kv ∈ f.predicates, ∃ p, Predicate.parse kv.1 kv.2 = .ok p ∧ p.Holds types doc

/-- A filter is true of a document. -/
def Holds (types : FieldLookup) (doc : Json) (f : Filter) : Prop :=
  f.MappingHolds types doc ∧ ∀ n ∈ f.combinators, n.Holds types doc

/-- The search through the mapping of a filter comes to a substring that is too large. -/
def MappingStalls (types : FieldLookup) (doc : Json) (f : Filter) : Prop :=
  ∃ ps, f.predicates.mapM (fun kv => Predicate.parse kv.1 kv.2) = .ok ps ∧
    Query.Reaches (fun p => p.Holds types doc) (fun p => ¬ p.Searchable) (Predicate.arranged ps)

/-- The search through a filter comes to a substring that is too large. -/
def Stalls (types : FieldLookup) (doc : Json) (f : Filter) : Prop :=
  f.MappingStalls types doc ∨ f.MappingHolds types doc ∧
    Query.Reaches (fun n => n.Holds types doc) (fun n => n.Stalls types doc) f.combinators

/-- A predicate stands in a filter. -/
def Mentions (f : Filter) (p : Predicate) : Prop :=
  (∃ kv ∈ f.predicates, Predicate.parse kv.1 kv.2 = .ok p) ∨ ∃ n ∈ f.combinators, n.Mentions p

end Filter

end DocStore
