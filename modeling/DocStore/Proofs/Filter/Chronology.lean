import DocStore.Aggregation.Sorting
import DocStore.Proofs.Filter.Agreement
import DocStore.Proofs.Timestamp.Spelling
import DocStore.Proofs.Timestamp.TextOrder

/-!
# Timestamps are filtered and sorted by time

The form of a text under the kind of timestamps is compared as the instant that the text names, in
milliseconds, whatever offset or form the text was given in. Range filters, which coerce their
operand in the same way, and sorts compare such values, so they go by time
(`Kind.chronological`).
-/

namespace DocStore

namespace Operator

/-- Whether a range operator accepts a value that stands in an order to the bound. -/
def accepts : Operator → Ordering → Bool
  | .gt, o => o == .gt
  | .gte, o => o != .lt
  | .lt, o => o == .lt
  | .lte, o => o != .gt
  | _, _ => false

/-- The operators that compare with a bound. -/
def ranges : List Operator := [.gt, .gte, .lt, .lte]

/-- A range operator on a string looks at its order to the bound. -/
theorem holds_str_iff {op : Operator} (range : op ∈ ranges) (s bound : String) :
    op.Holds (some (.str s)) (.str bound) ↔ op.accepts ((Json.str s).compareTo (.str bound)) = true := by
  have compares (orders : List Ordering) : Compares (some (.str s)) (.str bound) orders ↔
      (Json.str s).compareTo (.str bound) ∈ orders := by
    constructor
    · rintro ⟨_, rfl, -, order⟩
      exact order
    · intro order
      exact ⟨.str s, rfl, rfl, order⟩
  simp only [ranges, List.mem_cons, List.not_mem_nil, or_false] at range
  rcases range with rfl | rfl | rfl | rfl
  all_goals
    simp only [Holds, accepts, compares]
    cases (Json.str s).compareTo (.str bound) <;> decide

end Operator

namespace Kind

variable {field other a b : String} {x y : Json} {i j : Instant}

/-- The form of a text is the text of the instant that it names. -/
theorem datetime_coerce_eq_ok : Kind.datetime.coerce field (.str a) = .ok x ↔
    ∃ t, Timestamp.ofString? a = some t ∧ x = .str t.text := by
  rw [coerce_eq_ok_of_scalar (by simp)]
  show (Timestamp.ofString? a).map (fun t => Json.str t.text) = some x ↔ _
  rw [Option.map_eq_some_iff]
  simp only [eq_comm]

/-- The operand of a range operator is coerced to the kind of its field. -/
theorem range_operand {types : FieldLookup} {t : FieldType} {op : Operator}
    (declared : types field = some t) (kind : t.kind = .datetime) (range : op ∈ Operator.ranges)
    (h : Kind.datetime.coerce other (.str b) = .ok y) :
    Predicate.operand types ⟨field, op, .str b⟩ = .ok y := by
  have here : Kind.datetime.coerce field (.str b) = .ok y :=
    datetime_coerce_eq_ok.2 (datetime_coerce_eq_ok.1 h)
  have coerced (op : Operator) (unchecked : op.checksConstraints = false) :
      Predicate.coerceOperand types field op (.str b) = .ok y := by
    simp only [Predicate.coerceOperand, Predicate.checkPlain, declared, kind, here, unchecked]
    rfl
  simp only [Operator.ranges, List.mem_cons, List.not_mem_nil, or_false] at range
  rcases range with rfl | rfl | rfl | rfl
  · exact coerced .gt rfl
  · exact coerced .gte rfl
  · exact coerced .lt rfl
  · exact coerced .lte rfl

/-- A compiled range filter compares the value of the field with the form of its operand. -/
theorem selects_range {types : FieldLookup} {t : FieldType} {op : Operator} {key : String}
    {doc : Json} (declared : types field = some t) (kind : t.kind = .datetime)
    (range : op ∈ Operator.ranges) (named : Predicate.parseKey key = .ok (field, op))
    (hx : Kind.datetime.coerce field (.str a) = .ok x) (hy : Kind.datetime.coerce other (.str b) = .ok y)
    (stored : doc.getPath? field = some x) :
    ∃ n q, Node.ofKey key (.str b) = .ok n ∧ n.toQuery types = .ok q ∧
      Query.selects doc q = .ok (op.accepts (x.compareTo y)) := by
  let p : Predicate := ⟨field, op, .str b⟩
  have operand : p.operand types = .ok y := range_operand declared kind range hy
  have parsed : Node.ofKey key (.str b) = .ok (.leaf p) := by
    rw [Node.ofKey, Predicate.parse, named]
    rfl
  have compiled : (Node.leaf p).toQuery types =
      .ok (.obj [(field, Predicate.renderGroup [(op.queryKey, y)])]) := by
    rw [Node.toQuery, Predicate.queryOf, List.foldlM_cons, operand]
    rfl
  have plain : ∀ p', (Node.leaf p).Mentions p' → Text.isOperatorKey p'.field = false := by
    rintro _ ⟨⟩
    exact Predicate.isOperatorKey_of_isFieldName (Predicate.isFieldName_of_parseKey named)
  have other : op ≠ .contains := by
    rintro rfl
    exact absurd range (by decide)
  have calm : ¬ (Node.leaf p).Stalls types doc := by
    rw [Node.stalls_leaf, not_not]
    exact Predicate.searchable_of_ne other
  obtain ⟨answer, selected, meaning⟩ := ((Node.leaf p).decides_toQuery plain _ compiled).exists_ok calm
  refine ⟨_, _, parsed, compiled, ?_⟩
  rw [selected]
  congr 1
  obtain ⟨t, -, rfl⟩ := datetime_coerce_eq_ok.1 hx
  obtain ⟨u, -, rfl⟩ := datetime_coerce_eq_ok.1 hy
  rw [Bool.eq_iff_iff, meaning, Node.Holds, ← Operator.holds_str_iff range, ← stored]
  exact (Predicate.holds_iff_of_ne other operand).symm

/-- **Timestamps are compared, filtered and sorted by time.** Strings that are accepted as timestamps
name one instant each, and as far as these are in the years 0 to 9999, the forms of the strings are in
the order of the instants in milliseconds. A range filter on a field of timestamps selects a document
by that order, and a sort orders documents by it. -/
theorem chronological (hx : Kind.datetime.coerce field (.str a) = .ok x)
    (hy : Kind.datetime.coerce other (.str b) = .ok y) :
    ∃ i j, (∀ n, Instant.Spells a.toList n ↔ n = i) ∧ (∀ n, Instant.Spells b.toList n ↔ n = j) ∧
      (i.InFourDigitYears → j.InFourDigitYears →
        x.compareTo y = compare i.toMillis j.toMillis ∧
        (∀ {types : FieldLookup} {t : FieldType} {op : Operator} {key : String} {doc : Json},
          types field = some t → t.kind = .datetime → op ∈ Operator.ranges →
          Predicate.parseKey key = .ok (field, op) → doc.getPath? field = some x →
          ∃ n q, Node.ofKey key (.str b) = .ok n ∧ n.toQuery types = .ok q ∧
            Query.selects doc q = .ok (op.accepts (compare i.toMillis j.toMillis))) ∧
        ∀ {key : Aggregation.SortKey} {doc doc' : Json},
          doc.getPath? key.field = some x → doc'.getPath? key.field = some y →
          key.order doc doc' = if key.descending then compare j.toMillis i.toMillis
            else compare i.toMillis j.toMillis) := by
  obtain ⟨t, read, same⟩ := datetime_coerce_eq_ok.1 hx
  obtain ⟨u, read', same'⟩ := datetime_coerce_eq_ok.1 hy
  have regular := Timestamp.regular_of_ofString? read
  have regular' := Timestamp.regular_of_ofString? read'
  have spells := Timestamp.ofString?_iff.1 ⟨t, read, rfl⟩
  have spells' := Timestamp.ofString?_iff.1 ⟨u, read', rfl⟩
  refine ⟨t.instant, u.instant, spells.iff_eq, spells'.iff_eq, ?_⟩
  intro inside inside'
  have order : x.compareTo y = compare t.instant.toMillis u.instant.toMillis := by
    rw [same, same']
    exact Timestamp.compare_text regular regular'
      ((Timestamp.inFourDigitYears_instant regular).1 inside)
      ((Timestamp.inFourDigitYears_instant regular').1 inside')
  refine ⟨order, ?_, ?_⟩
  · intro types t' op key doc declared kind range named stored
    rw [← order]
    exact selects_range declared kind range named hx hy stored
  · intro key doc doc' stored stored'
    unfold Aggregation.SortKey.order
    rw [stored, stored', ← Instant.swap_compare t.instant.toMillis, ← order]
    rfl

/-- Half an hour after midnight, two hours east of Greenwich at the beginning of March, comes before
the first of March. -/
theorem chronological_at_month_end :
    Kind.datetime.coerce "at" (.str "2024-03-01T00:30:00.5+02:00") =
      .ok (.str "2024-02-29T22:30:00.500Z") ∧
    Kind.datetime.coerce "at" (.str "2024-03-01") = .ok (.str "2024-03-01T00:00:00.000Z") ∧
    (Json.str "2024-02-29T22:30:00.500Z").compareTo (.str "2024-03-01T00:00:00.000Z") = .lt := by
  have east : Kind.datetime.coerce "at" (.str "2024-03-01T00:30:00.5+02:00") =
      .ok (.str "2024-02-29T22:30:00.500Z") := by rfl
  have march : Kind.datetime.coerce "at" (.str "2024-03-01") =
      .ok (.str "2024-03-01T00:00:00.000Z") := by rfl
  refine ⟨east, march, ?_⟩
  obtain ⟨i, j, first, second, order⟩ := chronological east march
  have early := (first _).1 (Timestamp.ofString?_iff.1 ⟨⟨⟨2024, 2, 29⟩, 81000, 500000000⟩,
    by decide +kernel, rfl⟩)
  have late := (second _).1 (Timestamp.ofString?_iff.1 ⟨⟨⟨2024, 3, 1⟩, 0, 0⟩, by decide +kernel, rfl⟩)
  rw [(order (by rw [← early]; decide) (by rw [← late]; decide)).1, ← early, ← late]
  decide

end Kind

end DocStore
