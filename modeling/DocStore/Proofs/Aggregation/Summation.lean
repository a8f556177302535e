import DocStore.Proofs.Aggregation.Partition

/-!
# Sums of integers

A sum of integers is exact as long as every running sum fits 64 bits; the first that does not turns it
into a double for good (`Total.foldl_add`). What `$sum` makes of integers so depends on the order of
the documents (`SumOfIntegers`): if the total fits, some order gives it exactly, and every order does
exactly if the positive integers alone and the negative ones alone have sums that fit.
-/

namespace DocStore

/-- A double is no integer, whatever its value. -/
theorem Json.ofBinary64?_ne_int (x : Option Binary64) (n : Int) : Json.ofBinary64? x ≠ .int n := by
  cases x <;> simp [ofBinary64?, int]

namespace Aggregation

/-! ## Running sums -/

/-- Every running sum of some integers, from a start on, fits 64 bits. -/
def RunsWithin (s : Int) (ns : List Int) : Prop :=
  ∀ front, front <+: ns → FitsInt64 (s + front.sum)

section

variable {s i : Int} {ns order : List Int}

theorem RunsWithin.head (h : RunsWithin s ns) : FitsInt64 s := by
  simpa using h [] (List.nil_prefix ..)

theorem RunsWithin.total (h : RunsWithin s ns) : FitsInt64 (s + ns.sum) :=
  h ns (List.prefix_refl ns)

theorem runsWithin_nil : RunsWithin s [] ↔ FitsInt64 s := by
  simp [RunsWithin]

theorem runsWithin_cons :
    RunsWithin s (i :: ns) ↔ FitsInt64 s ∧ RunsWithin (s + i) ns := by
  constructor
  · intro h
    refine ⟨h.head, fun front before => ?_⟩
    have := h (i :: front) (List.prefix_cons_inj i |>.2 before)
    rw [List.sum_cons] at this
    omega
  · rintro ⟨fits, h⟩ front before
    cases front with
    | nil => simpa using fits
    | cons j front =>
      obtain ⟨rfl, after⟩ := List.cons_prefix_cons.1 before
      have := h front after
      rw [List.sum_cons]
      omega

theorem sum_nonpos (negative : ∀ i ∈ ns, i ≤ 0) : ns.sum ≤ 0 := by
  simpa using List.sum_le_card_nsmul ns 0 negative

/-- From a start that fits, one of the integers leads to a sum that fits, if all together do: one
against the sign of the start, or any if there is none. -/
theorem exists_next (each : ∀ i ∈ ns, FitsInt64 i) (filled : ns ≠ []) (fits : FitsInt64 s)
    (total : FitsInt64 (s + ns.sum)) : ∃ i ∈ ns, FitsInt64 (s + i) := by
  obtain ⟨i, ns, rfl⟩ := List.exists_cons_of_ne_nil filled
  rw [List.sum_cons] at total
  have first : FitsInt64 i := each i (List.mem_cons_self ..)
  by_cases up : 0 ≤ s
  · by_cases back : ∃ j ∈ i :: ns, j ≤ 0
    · obtain ⟨j, mem, le⟩ := back
      have := each j mem
      exact ⟨j, mem, by omega⟩
    · have positive : ∀ j ∈ i :: ns, 0 ≤ j := fun j mem =>
        Int.le_of_lt (Int.not_le.1 fun le => back ⟨j, mem, le⟩)
      have here := positive i (List.mem_cons_self ..)
      have rest : 0 ≤ ns.sum := List.sum_nonneg fun j mem => positive j (List.mem_cons_of_mem i mem)
      exact ⟨i, List.mem_cons_self .., by omega⟩
  · by_cases back : ∃ j ∈ i :: ns, 0 ≤ j
    · obtain ⟨j, mem, le⟩ := back
      have := each j mem
      exact ⟨j, mem, by omega⟩
    · have negative : ∀ j ∈ i :: ns, j ≤ 0 := fun j mem =>
        Int.le_of_lt (Int.not_le.1 fun le => back ⟨j, mem, le⟩)
      have here := negative i (List.mem_cons_self ..)
      have rest : ns.sum ≤ 0 := sum_nonpos fun j mem => negative j (List.mem_cons_of_mem i mem)
      exact ⟨i, List.mem_cons_self .., by omega⟩

/-- **Integers whose total fits can be ordered so that every running sum does.** -/
theorem exists_runsWithin (each : ∀ i ∈ ns, FitsInt64 i) (fits : FitsInt64 s)
    (total : FitsInt64 (s + ns.sum)) : ∃ order, order.Perm ns ∧ RunsWithin s order := by
  induction length : ns.length generalizing ns s with
  | zero =>
    obtain rfl := List.eq_nil_of_length_eq_zero length
    exact ⟨[], .refl _, runsWithin_nil.2 fits⟩
  | succ n ih =>
    obtain ⟨i, mem, next⟩ := exists_next each (by rintro rfl; cases length) fits total
    obtain ⟨before, after, rfl⟩ := List.append_of_mem mem
    have others : (before ++ i :: after).Perm (i :: (before ++ after)) := List.perm_middle
    have sum := others.sum_eq
    rw [List.sum_cons] at sum
    have shorter : (before ++ after).length = n := by
      rw [List.length_append, List.length_cons] at length
      rw [List.length_append]
      omega
    obtain ⟨order, perm, within⟩ : ∃ order, order.Perm (before ++ after) ∧ RunsWithin (s + i) order :=
      ih (fun j hj => each j (others.mem_iff.2 (List.mem_cons_of_mem i hj))) next (by omega) shorter
    exact ⟨i :: order, (perm.cons i).trans others.symm, runsWithin_cons.2 ⟨fits, within⟩⟩

/-- The positive ones of some integers. -/
def gains (ns : List Int) : List Int := ns.filter (0 < ·)

/-- The negative ones of some integers. -/
def losses (ns : List Int) : List Int := ns.filter (· < 0)

theorem sum_gains_nonneg (ns : List Int) : 0 ≤ (gains ns).sum :=
  List.sum_nonneg fun _ mem => Int.le_of_lt (by simpa using List.of_mem_filter mem)

theorem sum_losses_nonpos (ns : List Int) : (losses ns).sum ≤ 0 :=
  sum_nonpos fun _ mem => Int.le_of_lt (by simpa using List.of_mem_filter mem)

theorem sum_eq (ns : List Int) : ns.sum = (gains ns).sum + (losses ns).sum := by
  induction ns with
  | nil => rfl
  | cons i ns ih =>
    rw [gains, losses] at ih ⊢
    rw [List.sum_cons, List.filter_cons, List.filter_cons]
    split <;> split <;> simp_all <;> omega

/-- The positive integers bound every running sum from above, and the negative ones from below. -/
theorem sum_bounds {front : List Int} (before : front <+: ns) :
    (losses ns).sum ≤ front.sum ∧ front.sum ≤ (gains ns).sum := by
  obtain ⟨back, rfl⟩ := before
  have split := sum_eq front
  have := sum_gains_nonneg front
  have := sum_losses_nonpos front
  have := sum_gains_nonneg back
  have := sum_losses_nonpos back
  have up : (gains (front ++ back)).sum = (gains front).sum + (gains back).sum := by
    rw [gains, List.filter_append, List.sum_append]
    rfl
  have down : (losses (front ++ back)).sum = (losses front).sum + (losses back).sum := by
    rw [losses, List.filter_append, List.sum_append]
    rfl
  omega

/-- **Every order keeps the running sums within 64 bits** exactly if the sum of the positive integers
and the sum of the negative ones fit. -/
theorem runsWithin_all_iff :
    (∀ order, order.Perm ns → RunsWithin 0 order) ↔
      FitsInt64 (gains ns).sum ∧ FitsInt64 (losses ns).sum := by
  constructor
  · intro all
    have first (p : Int → Bool) : FitsInt64 (ns.filter p).sum := by
      have := all _ (List.filter_append_perm p ns) _ (List.prefix_append _ _)
      rwa [Int.zero_add] at this
    exact ⟨first _, first _⟩
  · rintro ⟨up, down⟩ order perm front before
    obtain ⟨least, most⟩ := sum_bounds before
    have same : (gains order).sum = (gains ns).sum := (perm.filter _).sum_eq
    have same' : (losses order).sum = (losses ns).sum := (perm.filter _).sum_eq
    omega

end

/-! ## Totals -/

namespace Total

theorem foldl_add_inexact (x : Option Binary64) (ns : List Int) :
    (ns.map Number.int).foldl add (.inexact x) =
      .inexact (x.bind fun x => ns.foldlM (fun x i => x.add (.ofInt i)) x) := by
  induction ns generalizing x with
  | nil => simp
  | cons i ns ih =>
    rw [List.map_cons, List.foldl_cons, add, ih, Option.bind_assoc]
    simp only [List.foldlM_cons, Number.toBinary64, Option.bind_eq_bind]

theorem add_exact {s i : Int} (fits : FitsInt64 i) : add (.exact s) (.int i) =
    if FitsInt64 (s + i) then .exact (s + i) else .inexact ((Binary64.ofInt s).add (.ofInt i)) := by
  simp only [add, Number.asInt64?, if_pos fits]

/-- The double that integers sum up to when a running sum does not fit: the sum is exact up to there,
and doubles are added from then on. -/
def Overflows (s : Int) (ns : List Int) (x : Option Binary64) : Prop :=
  ∃ front i rest, ns = front ++ i :: rest ∧ RunsWithin s front ∧ ¬ FitsInt64 (s + front.sum + i) ∧
    x = (i :: rest).foldlM (fun x i => x.add (.ofInt i)) (.ofInt (s + front.sum))

/-- **A sum of integers is exact as long as it fits**, and a double from then on. -/
theorem foldl_add {s : Int} {ns : List Int} (each : ∀ i ∈ ns, FitsInt64 i) (fits : FitsInt64 s) :
    RunsWithin s ns ∧ (ns.map Number.int).foldl add (.exact s) = .exact (s + ns.sum) ∨
      ¬ RunsWithin s ns ∧
        ∃ x, Overflows s ns x ∧ (ns.map Number.int).foldl add (.exact s) = .inexact x := by
  induction ns generalizing s with
  | nil => exact .inl ⟨runsWithin_nil.2 fits, by simp⟩
  | cons i ns ih =>
    obtain ⟨here, others⟩ := List.forall_mem_cons.1 each
    rw [List.map_cons, List.foldl_cons, add_exact here, runsWithin_cons]
    by_cases next : FitsInt64 (s + i)
    · rw [if_pos next]
      rcases ih others next with ⟨within, total⟩ |
        ⟨without, _, ⟨front, j, rest, rfl, early, large, rfl⟩, total⟩
      · refine .inl ⟨⟨fits, within⟩, ?_⟩
        rw [total, List.sum_cons, Int.add_assoc]
      · refine .inr ⟨fun within => without within.2, _, ⟨i :: front, j, rest, rfl,
          runsWithin_cons.2 ⟨fits, early⟩, ?_, ?_⟩, total⟩
        · rwa [List.sum_cons, ← Int.add_assoc]
        · rw [List.sum_cons, Int.add_assoc]
    · rw [if_neg next, foldl_add_inexact]
      refine .inr ⟨fun within => next within.2.head, _, ⟨[], i, ns, rfl, runsWithin_nil.2 fits, ?_, ?_⟩,
        rfl⟩
      · simpa using next
      · rw [List.sum_nil, Int.add_zero, List.foldlM_cons, Option.bind_eq_bind]

end Total

/-! ## Documents -/

/-- What `$sum` makes of the values of an expression on some documents. -/
def summed (operand : Json) (docs : List Json) : Json :=
  Accumulator.sum.result (docs.map (evaluate? · operand))

/-- The integer that an expression has on a document. -/
def integer? (operand doc : Json) : Option Int := (evaluate? doc operand).bind Json.asInt64?

/-- The integers among the values of an expression on some documents, in their order. -/
def integers (operand : Json) (docs : List Json) : List Int := docs.filterMap (integer? operand)

/-- All values of an expression on some documents are integers of 64 bits. -/
def Integral (operand : Json) (docs : List Json) : Prop :=
  ∀ d ∈ docs, ∀ v, evaluate? d operand = some v → ∃ i, FitsInt64 i ∧ v = .int i

section

variable {operand : Json} {docs order : List Json}

theorem Integral.perm (h : Integral operand docs) (perm : order.Perm docs) :
    Integral operand order := fun d hd => h d (perm.mem_iff.1 hd)

theorem integers_perm (perm : order.Perm docs) :
    (integers operand order).Perm (integers operand docs) := perm.filterMap _

theorem fits_of_mem_integers {i : Int} (h : i ∈ integers operand docs) : FitsInt64 i := by
  obtain ⟨d, -, here⟩ := List.mem_filterMap.1 h
  obtain ⟨v, -, integer⟩ := Option.bind_eq_some_iff.1 here
  unfold Json.asInt64? Number.asInt64? at integer
  split at integer
  · split at integer
    · split at integer
      · rename_i fits
        cases integer
        exact fits
      · cases integer
    · cases integer
  · cases integer

/-- The operands are the integers. -/
theorem Integral.operands (h : Integral operand docs) :
    ((docs.map (evaluate? · operand)).filterMap id).filterMap Accumulator.number? =
      (integers operand docs).map Number.int := by
  induction docs with
  | nil => rfl
  | cons d docs ih =>
    obtain ⟨here, others⟩ := List.forall_mem_cons.1 h
    have rest := ih others
    rw [integers] at rest ⊢
    cases value : evaluate? d operand with
    | none =>
      have nothing : integer? operand d = none := by rw [integer?, value, Option.bind_none]
      rw [List.filterMap_cons_none nothing, ← rest]
      simp [value]
    | some v =>
      obtain ⟨i, fits, rfl⟩ := here v value
      have integer : integer? operand d = some i := by
        rw [integer?, value]
        exact if_pos fits
      rw [List.filterMap_cons_some integer, List.map_cons, List.map_cons, ← rest]
      simp [value, Accumulator.number?, Json.int]

theorem Integral.summed_eq (h : Integral operand docs) :
    summed operand docs =
      (((integers operand docs).map Number.int).foldl Total.add (.exact 0)).toJson := by
  rw [← h.operands]
  rfl

/-- **Integers are summed exactly if every running sum fits**, and to a double otherwise. -/
theorem Integral.summed_cases (h : Integral operand docs) :
    RunsWithin 0 (integers operand docs) ∧
        summed operand docs = .int (integers operand docs).sum ∨
      ¬ RunsWithin 0 (integers operand docs) ∧ ∃ x, Total.Overflows 0 (integers operand docs) x ∧
        summed operand docs = .ofBinary64? x := by
  rw [h.summed_eq]
  rcases Total.foldl_add (fun i => fits_of_mem_integers (i := i)) (by decide : FitsInt64 0) with
    ⟨within, total⟩ | ⟨without, x, overflows, total⟩
  · refine .inl ⟨within, ?_⟩
    rw [total, Total.toJson, Int.zero_add]
  · refine .inr ⟨without, x, overflows, ?_⟩
    rw [total, Total.toJson]

theorem Integral.summed_eq_int_iff (h : Integral operand docs) {n : Int} :
    summed operand docs = .int n ↔
      RunsWithin 0 (integers operand docs) ∧ (integers operand docs).sum = n := by
  rcases h.summed_cases with ⟨within, exact⟩ | ⟨without, x, -, inexact⟩
  · rw [exact]
    simp [Json.int, within]
  · rw [inexact]
    exact iff_of_false (Json.ofBinary64?_ne_int x n) fun within => without within.1

/-- An order of the integers is an order of the documents. -/
theorem exists_perm_filterMap {α β : Type} {f : α → Option β} {xs : List α} {ys : List β}
    (h : ys.Perm (xs.filterMap f)) : ∃ zs : List α, zs.Perm xs ∧ zs.filterMap f = ys := by
  induction ys generalizing xs with
  | nil => exact ⟨xs, .refl _, h.nil_eq.symm⟩
  | cons y ys ih =>
    obtain ⟨x, mem, value⟩ := List.mem_filterMap.1 (h.subset (List.mem_cons_self ..))
    obtain ⟨before, after, rfl⟩ := List.append_of_mem mem
    have middle : (before ++ x :: after).Perm (x :: (before ++ after)) := List.perm_middle
    have rest := h.trans (middle.filterMap f)
    rw [List.filterMap_cons_some value] at rest
    obtain ⟨zs, perm, same⟩ := ih rest.cons_inv
    exact ⟨x :: zs, (perm.cons x).trans middle.symm, by rw [List.filterMap_cons_some value, same]⟩

/-- What `$sum` makes of documents with integers, in whatever order they come. -/
structure SumOfIntegers (operand : Json) (docs : List Json) : Prop where
  /-- Exactly the orders in which every running sum fits give the total. -/
  exact_iff : ∀ order, order.Perm docs →
    (summed operand order = .int (integers operand docs).sum ↔ RunsWithin 0 (integers operand order))
  /-- In any other order, the first running sum that does not fit is a double, and doubles are added
  from then on. -/
  otherwise : ∀ order, order.Perm docs → ¬ RunsWithin 0 (integers operand order) →
    ∃ x, Total.Overflows 0 (integers operand order) x ∧ summed operand order = .ofBinary64? x
  some_order : FitsInt64 (integers operand docs).sum ↔
    ∃ order, order.Perm docs ∧ summed operand order = .int (integers operand docs).sum
  every_order : FitsInt64 (gains (integers operand docs)).sum ∧
      FitsInt64 (losses (integers operand docs)).sum ↔
    ∀ order, order.Perm docs → summed operand order = .int (integers operand docs).sum

theorem Integral.sumOfIntegers (h : Integral operand docs) : SumOfIntegers operand docs := by
  have exact_iff (order : List Json) (perm : order.Perm docs) :
      summed operand order = .int (integers operand docs).sum ↔
        RunsWithin 0 (integers operand order) := by
    have total : (integers operand order).sum = (integers operand docs).sum :=
      (integers_perm perm).sum_eq
    rw [(h.perm perm).summed_eq_int_iff, and_iff_left total]
  refine ⟨exact_iff, fun order perm without => ?_, ⟨fun fits => ?_, ?_⟩, ?_⟩
  · rcases (h.perm perm).summed_cases with ⟨within, -⟩ | ⟨-, first⟩
    · exact absurd within without
    · exact first
  · obtain ⟨ns, perm, within⟩ := exists_runsWithin (fun i => fits_of_mem_integers (i := i))
      (by decide : FitsInt64 0) (by rwa [Int.zero_add])
    obtain ⟨order, reordered, rfl⟩ := exists_perm_filterMap perm
    exact ⟨order, reordered, (exact_iff order reordered).2 within⟩
  · rintro ⟨order, perm, exact⟩
    have fits := ((exact_iff order perm).1 exact).total
    rwa [Int.zero_add, (integers_perm perm).sum_eq] at fits
  · rw [← runsWithin_all_iff]
    constructor
    · intro all order perm
      exact (exact_iff order perm).2 (all _ (integers_perm perm))
    · intro all ns perm
      obtain ⟨order, reordered, rfl⟩ := exists_perm_filterMap perm
      exact (exact_iff order reordered).1 (all order reordered)

/-- **What `$sum` makes of the documents of a group with integers.** Without a key, all documents are
one group. -/
theorem exists_sums {fs : Fields} {name : String} (spec : IsGroupSpec fs) (other : name ≠ "_id")
    (sums : fs.get? name = some (.obj [("$sum", operand)])) (docs : List Json) :
    ∃ (s : GroupSpec) (groups : List Group), group (.obj fs) docs = .ok (groups.map s.document) ∧
      (fs.get? "_id" = some .null → docs ≠ [] → groups = [⟨.null, docs⟩]) ∧
      ∀ g ∈ groups, (s.document g).get? name = some (summed operand g.members) ∧
        (Integral operand g.members → SumOfIntegers operand g.members) := by
  obtain ⟨s, read⟩ := exists_groupSpec_iff.2 spec
  refine ⟨s, Group.ofDocuments s.key docs, Fallible.bind_eq_ok.2 ⟨s, read, rfl⟩,
    fun keyless filled => ?_, fun g _ => ⟨?_, Integral.sumOfIntegers⟩⟩
  · have key : s.key = .null := Option.some.inj ((groupSpec_eq_ok.1 read).1.symm.trans keyless)
    rw [key, ofDocuments_null filled]
  · exact get?_document read other sums rfl g

end

/-- The largest integer, one and minus one. -/
def brim : List Json :=
  [.obj [("v", .int 9223372036854775807)], .obj [("v", .int 1)], .obj [("v", .int (-1))]]

theorem integers_brim : integers (.str "$v") brim = [9223372036854775807, 1, -1] := by
  decide +kernel

theorem integral_brim : Integral (.str "$v") brim := by
  simp only [Integral, brim, List.forall_mem_cons]
  refine ⟨?_, ?_, ?_, by simp⟩ <;> rintro _ ⟨⟩ <;> exact ⟨_, by decide, rfl⟩

/-- The total fits; some orders give it, but not all. -/
theorem exists_sums_brim :
    let fs : Fields := [("_id", .null), ("t", .obj [("$sum", .str "$v")])]
    IsGroupSpec fs ∧ (∃ doc, group (.obj fs) brim = .ok [doc] ∧
        doc.get? "t" = some (summed (.str "$v") brim)) ∧
      (∃ order, order.Perm brim ∧ summed (.str "$v") order = .int 9223372036854775807) ∧
      ¬ ∀ order, order.Perm brim → summed (.str "$v") order = .int 9223372036854775807 := by
  intro fs
  have spec : IsGroupSpec fs := by
    refine ⟨rfl, fun f hf other => ?_⟩
    simp only [fs, List.mem_cons, List.not_mem_nil, or_false] at hf
    rcases hf with rfl | rfl
    · exact absurd rfl other
    · exact ⟨_, _, rfl, rfl⟩
  have named : fs.get? "t" = some (.obj [("$sum", .str "$v")]) := rfl
  obtain ⟨s, groups, grouped, keyless, sums⟩ := exists_sums spec (by decide) named brim
  obtain rfl := keyless rfl (by simp [brim])
  obtain ⟨value, law⟩ := sums _ (List.mem_singleton_self _)
  have law := law integral_brim
  have total : (integers (.str "$v") brim).sum = 9223372036854775807 := by rw [integers_brim]; rfl
  refine ⟨spec, ⟨_, grouped, value⟩, ?_, fun all => ?_⟩
  · rw [← total]
    exact law.some_order.1 (by rw [total]; decide)
  · rw [← total, ← law.every_order, integers_brim] at all
    revert all
    decide

/-- A total that fits comes out as a double when a running sum before it is too large. -/
theorem not_exact_of_overflow :
    Integral (.str "$v") brim ∧ (integers (.str "$v") brim).sum = 9223372036854775807 ∧
      ∃ doc, group (.obj [("_id", .null), ("t", .obj [("$sum", .str "$v")])]) brim = .ok [doc] ∧
        doc.get? "t" ≠ some (.int 9223372036854775807) := by
  refine ⟨integral_brim, by rw [integers_brim]; rfl, _, rfl, ?_⟩
  change some (summed (.str "$v") brim) ≠ _
  rw [ne_eq, Option.some.injEq, integral_brim.summed_eq_int_iff, integers_brim]
  rintro ⟨within, -⟩
  have large := within [9223372036854775807, 1] (by decide)
  revert large
  decide

end Aggregation

end DocStore
