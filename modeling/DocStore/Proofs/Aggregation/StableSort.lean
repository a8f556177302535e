import DocStore.Proofs.Aggregation.Sorting
import DocStore.Proofs.Json.Order
import DocStore.Proofs.Json.Paths

/-!
# Sorting by several fields

A sorted list is in ascending order, and items that compare as equal stand in it as before
(`sortBy_stably`); there is only one such list (`SortedStably.unique`). Documents are compared by the
first field of the specification that tells them apart (`orderBy_eq_lt_iff`). This is a total preorder
of documents whose numbers are not blurred (`transCmp_orderBy`).
-/

namespace DocStore

open List (Perm)

/-! ## Stable sorting -/

namespace Aggregation

/-- A list is another one in ascending order, in which items that compare as equal stand as before. -/
structure SortedStably {α : Type} (cmp : α → α → Ordering) (xs sorted : List α) : Prop where
  perm : Perm sorted xs
  ascending : sorted.Pairwise fun a b => cmp b a ≠ .lt
  stable : ∀ c ∈ xs, sorted.filter (cmp c · == .eq) = xs.filter (cmp c · == .eq)

section

variable {α : Type} {cmp : α → α → Ordering} [Std.OrientedCmp cmp]

theorem ne_lt_iff {a b : α} : cmp a b ≠ .lt ↔ (cmp b a).isLE := by
  have swap : cmp b a = (cmp a b).swap := Std.OrientedCmp.eq_swap
  rw [swap]
  cases cmp a b <;> simp

theorem eq_eq_of_ne_lt {a b : α} (up : cmp a b ≠ .lt) (down : cmp b a ≠ .lt) : cmp a b = .eq := by
  rw [ne_lt_iff] at up down
  exact Std.OrientedCmp.isLE_antisymm down up

/-- The first item of an ascending list is a least one. -/
theorem ne_lt_head {a b : α} {xs : List α} (ascending : (a :: xs).Pairwise fun a b => cmp b a ≠ .lt)
    (hb : b ∈ a :: xs) : cmp b a ≠ .lt := by
  rcases List.mem_cons.1 hb with rfl | hb
  · have self : cmp b b = .eq := Std.ReflCmp.compare_self
    simp [self]
  · exact (List.pairwise_cons.1 ascending).1 b hb

/-- **Only one list is sorted stably.** -/
theorem SortedStably.unique {xs ys zs : List α} (hy : SortedStably cmp xs ys)
    (hz : SortedStably cmp xs zs) : ys = zs := by
  have perm : Perm ys zs := hy.perm.trans hz.perm.symm
  have stable : ∀ c ∈ ys, ys.filter (cmp c · == .eq) = zs.filter (cmp c · == .eq) := fun c hc =>
    (hy.stable c (hy.perm.mem_iff.1 hc)).trans (hz.stable c (hy.perm.mem_iff.1 hc)).symm
  have ascendingY := hy.ascending
  have ascendingZ := hz.ascending
  clear hy hz
  induction ys generalizing zs with
  | nil => exact perm.nil_eq
  | cons a ys ih =>
    cases zs with
    | nil => exact perm.eq_nil
    | cons b zs =>
      -- Neither head is less than the other, so that both head the items that tie with them.
      have tied : cmp a b = .eq := eq_eq_of_ne_lt
        (ne_lt_head ascendingZ (perm.mem_iff.1 (List.mem_cons_self ..)))
        (ne_lt_head ascendingY (perm.mem_iff.2 (List.mem_cons_self ..)))
      have self : cmp a a = .eq := Std.ReflCmp.compare_self
      have heads := stable a (List.mem_cons_self ..)
      rw [List.filter_cons_of_pos (by simp [self]),
        List.filter_cons_of_pos (by simp [tied])] at heads
      obtain rfl := (List.cons.inj heads).1
      refine congrArg _ (ih perm.cons_inv (fun c hc => ?_) ascendingY.of_cons ascendingZ.of_cons)
      have rest := stable c (List.mem_cons_of_mem _ hc)
      by_cases equal : cmp c a = .eq
      · rw [List.filter_cons_of_pos (by simp [equal]), List.filter_cons_of_pos (by simp [equal])]
          at rest
        exact (List.cons.inj rest).2
      · rwa [List.filter_cons_of_neg (by simp [equal]), List.filter_cons_of_neg (by simp [equal])]
          at rest

end

section

variable {α : Type} {cmp : α → α → Ordering} [Std.TransCmp cmp]

/-- An item is put after items that it is less than, and so after none that ties with it. -/
theorem filter_insertDown (c x : α) (xs : List α) :
    (insertDown (cmp · · == .lt) x xs).filter (cmp c · == .eq) =
      (x :: xs).filter (cmp c · == .eq) := by
  induction xs with
  | nil => rfl
  | cons y ys ih =>
    rw [insertDown]
    split
    · rename_i less
      rw [beq_iff_eq] at less
      have one : cmp c x ≠ .eq ∨ cmp c y ≠ .eq := by
        by_contra both
        obtain ⟨left, right⟩ : cmp c x = .eq ∧ cmp c y = .eq := by simpa using both
        have tied := Std.TransCmp.eq_trans (Std.OrientedCmp.eq_symm left) right
        rw [less] at tied
        cases tied
      rcases one with other | other
      · rw [List.filter_cons, ih, List.filter_cons_of_neg (by simp [other]),
          List.filter_cons_of_neg (by simp [other]), List.filter_cons]
      · have skipped (zs : List α) :
            (y :: zs).filter (cmp c · == .eq) = zs.filter (cmp c · == .eq) :=
          List.filter_cons_of_neg (by simp [other])
        rw [skipped, ih, List.filter_cons, List.filter_cons, skipped]
    · rfl

theorem descending_insertDown (x : α) {xs : List α}
    (descending : xs.Pairwise fun a b => cmp a b ≠ .lt) :
    (insertDown (cmp · · == .lt) x xs).Pairwise fun a b => cmp a b ≠ .lt := by
  induction xs with
  | nil => exact List.pairwise_singleton _ x
  | cons y ys ih =>
    obtain ⟨here, there⟩ := List.pairwise_cons.1 descending
    rw [insertDown]
    split
    · rename_i less
      rw [beq_iff_eq] at less
      refine List.pairwise_cons.2 ⟨fun z hz => ?_, ih there⟩
      rcases List.mem_cons.1 ((insertDown_perm _ x ys).mem_iff.1 hz) with rfl | hz
      · rw [ne_lt_iff, less]
        rfl
      · exact here z hz
    · rename_i least
      have least : cmp x y ≠ .lt := by simpa using least
      refine List.pairwise_cons.2 ⟨fun z hz => ?_, descending⟩
      rcases List.mem_cons.1 hz with rfl | hz
      · exact least
      · exact ne_lt_iff.2 (Std.TransCmp.isLE_trans (ne_lt_iff.1 (here z hz)) (ne_lt_iff.1 least))

/-- **Sorting is stable.** -/
theorem sortBy_stably (xs : List α) : SortedStably cmp xs (sortBy (cmp · · == .lt) xs) := by
  have inserted (sorted : List α) (descending : sorted.Pairwise fun a b => cmp a b ≠ .lt) :
      (xs.foldl (fun sorted x => insertDown (cmp · · == .lt) x sorted) sorted).Pairwise
          (fun a b => cmp a b ≠ .lt) ∧
        ∀ c, (xs.foldl (fun sorted x => insertDown (cmp · · == .lt) x sorted) sorted).filter
          (cmp c · == .eq) = (xs.reverse ++ sorted).filter (cmp c · == .eq) := by
    induction xs generalizing sorted with
    | nil => exact ⟨descending, fun c => rfl⟩
    | cons x xs ih =>
      obtain ⟨next, kept⟩ := ih _ (descending_insertDown x descending)
      refine ⟨next, fun c => (kept c).trans ?_⟩
      rw [List.filter_append, filter_insertDown, ← List.filter_append, List.reverse_cons,
        List.append_assoc, List.singleton_append]
  obtain ⟨descending, kept⟩ := inserted [] .nil
  refine ⟨sortBy_perm _ xs, List.pairwise_reverse.2 descending, fun c _ => ?_⟩
  rw [sortBy, List.filter_reverse, kept, List.append_nil, ← List.filter_reverse, List.reverse_reverse]

end

section

variable {α β : Type} (f : β → α)

theorem insertDown_map (less : α → α → Bool) (x : β) (xs : List β) :
    insertDown less (f x) (xs.map f) = (insertDown (fun a b => less (f a) (f b)) x xs).map f := by
  induction xs with
  | nil => rfl
  | cons y ys ih =>
    rw [List.map_cons, insertDown, insertDown, ih]
    split <;> rfl

theorem sortBy_map (less : α → α → Bool) (xs : List β) :
    sortBy less (xs.map f) = (sortBy (fun a b => less (f a) (f b)) xs).map f := by
  have inserted (sorted : List β) :
      (xs.map f).foldl (fun sorted x => insertDown less x sorted) (sorted.map f) =
        (xs.foldl (fun sorted x => insertDown (fun a b => less (f a) (f b)) x sorted) sorted).map f := by
    induction xs generalizing sorted with
    | nil => rfl
    | cons x xs ih => rw [List.map_cons, List.foldl_cons, insertDown_map, ih, List.foldl_cons]
  rw [sortBy, sortBy, List.map_reverse, ← inserted, List.map_nil]

theorem SortedStably.map {cmp : α → α → Ordering} {xs sorted : List β}
    (h : SortedStably (fun a b => cmp (f a) (f b)) xs sorted) :
    SortedStably cmp (xs.map f) (sorted.map f) := by
  refine ⟨h.perm.map f, List.pairwise_map.2 h.ascending, fun c hc => ?_⟩
  obtain ⟨b, hb, rfl⟩ := List.mem_map.1 hc
  rw [List.filter_map, List.filter_map]
  exact congrArg (List.map f) (h.stable b hb)

end

end Aggregation

/-! ## The comparator -/

namespace Json

theorem compareOptional_swap (a b : Option Json) :
    compareOptional b a = (compareOptional a b).swap := by
  cases a with
  | none => cases b <;> rfl
  | some v =>
    cases b with
    | none => rfl
    | some w => exact compareTo_swap v w

section

variable {P : Number → Prop}

theorem isLE_compareOptional_trans (sharp : Number.Unblurred P) {a b c : Option Json}
    (ha : ∀ v ∈ a, v.NumbersIn P) (hb : ∀ v ∈ b, v.NumbersIn P) (hc : ∀ v ∈ c, v.NumbersIn P)
    (ab : (compareOptional a b).isLE) (bc : (compareOptional b c).isLE) :
    (compareOptional a c).isLE := by
  cases a with
  | none => cases c <;> rfl
  | some u =>
    cases b with
    | none => cases ab
    | some v =>
      cases c with
      | none => cases bc
      | some w => exact isLE_compareTo_trans_iff.1 sharp u v w (ha u rfl) (hb v rfl) (hc w rfl) ab bc

/-- The numbers at a path are numbers of the document. -/
theorem NumbersIn.getPath? {v w : Json} {path : String} (h : v.NumbersIn P)
    (there : v.getPath? path = some w) : w.NumbersIn P := by
  refine getPath?_invariant (fun v w segment h below => ?_) h there
  cases h with
  | obj values => exact values _ (Fields.mem_of_get? below)
  | arr items =>
    obtain ⟨i, -, here⟩ := Option.bind_eq_some_iff.1 below
    exact items w (List.mem_of_getElem? here)
  | _ => cases below

end

end Json

namespace Aggregation

theorem SortKey.order_swap (k : SortKey) (a b : Json) : k.order b a = (k.order a b).swap := by
  rw [order, order, Json.compareOptional_swap]
  cases k.descending <;> rfl

instance (keys : List SortKey) : Std.OrientedCmp (orderBy keys) where
  eq_swap {a b} := by
    induction keys with
    | nil => rfl
    | cons k keys ih =>
      change (k.order a b).then (orderBy keys a b) = ((k.order b a).then (orderBy keys b a)).swap
      rw [Ordering.swap_then, ← ih, k.order_swap b a]

section

variable {P : Number → Prop}

theorem transCmp_order (sharp : Number.Unblurred P) (k : SortKey) :
    Std.TransCmp fun a b : {d : Json // d.NumbersIn P} => k.order a b := by
  have ascending : Std.TransCmp fun a b : {d : Json // d.NumbersIn P} =>
      Json.compareOptional (a.1.getPath? k.field) (b.1.getPath? k.field) :=
    { eq_swap := Json.compareOptional_swap _ _
      isLE_trans := fun {a b c} => Json.isLE_compareOptional_trans sharp
        (fun _ => a.2.getPath?) (fun _ => b.2.getPath?) (fun _ => c.2.getPath?) }
  unfold SortKey.order
  cases k.descending with
  | false => exact ascending
  | true =>
    simp only [← Json.compareOptional_swap, if_true]
    infer_instance

/-- **The order by several fields is a total preorder** of documents whose numbers are not blurred. -/
theorem transCmp_orderBy (sharp : Number.Unblurred P) (keys : List SortKey) :
    Std.TransCmp fun a b : {d : Json // d.NumbersIn P} => orderBy keys a b := by
  induction keys with
  | nil => exact { eq_swap := rfl, isLE_trans := fun _ _ => rfl }
  | cons k keys ih =>
    have first := transCmp_order sharp k
    exact inferInstanceAs (Std.TransCmp (compareLex
      (fun a b : {d : Json // d.NumbersIn P} => k.order a b) fun a b => orderBy keys a b))

end

/-! ## Documents among others -/

section

variable {docs : List Json}

theorem transCmp_orderBy_of_mem {P : Number → Prop} (sharp : Number.Unblurred P)
    (numbers : ∀ d ∈ docs, d.NumbersIn P) (keys : List SortKey) :
    Std.TransCmp fun a b : {d // d ∈ docs} => orderBy keys a b :=
  have wider := transCmp_orderBy sharp keys
  let widen (d : {d // d ∈ docs}) : {d : Json // d.NumbersIn P} := ⟨d, numbers d d.2⟩
  { eq_swap := fun {a b} => wider.eq_swap (a := widen a) (b := widen b)
    isLE_trans := fun {a b c} => wider.isLE_trans (a := widen a) (b := widen b) (c := widen c) }

/-- Sorting is stable if the comparisons of the documents that are sorted are those of a total
preorder, whatever those of other documents are. -/
theorem sortBy_stably_of_mem {cmp : Json → Json → Ordering}
    (preorder : Std.TransCmp fun a b : {d // d ∈ docs} => cmp a b) :
    SortedStably cmp docs (sortBy (cmp · · == .lt) docs) := by
  have attached : SortedStably (fun a b : {d // d ∈ docs} => cmp a b) docs.attach _ :=
    sortBy_stably docs.attach
  replace attached := attached.map
  rwa [← sortBy_map Subtype.val (cmp · · == .lt), List.attach_map_subtype_val] at attached

end

/-! ## The order that a specification asks for -/

/-- A value that can be missing comes before another one: it is missing, or less. -/
inductive Lower : Option Json → Option Json → Prop where
  | missing {v : Json} : Lower none (some v)
  | less {v w : Json} : v.compareTo w = .lt → Lower (some v) (some w)

/-- A field of a specification puts one document before another one. -/
def Leads (f : String × Json) (a b : Json) : Prop :=
  if f.2.asInt64? = some (-1) then Lower (b.getPath? f.1) (a.getPath? f.1)
  else Lower (a.getPath? f.1) (b.getPath? f.1)

/-- No field of a specification tells two documents apart. -/
def Ties (fs : Fields) (a b : Json) : Prop := ∀ f ∈ fs, ¬ Leads f a b ∧ ¬ Leads f b a

/-- A document comes before another one: the first field that tells them apart puts it there. -/
inductive Precedes : Fields → Json → Json → Prop where
  | here {f : String × Json} {fs : Fields} {a b : Json} : Leads f a b → Precedes (f :: fs) a b
  | later {f : String × Json} {fs : Fields} {a b : Json} :
    ¬ Leads f a b → ¬ Leads f b a → Precedes fs a b → Precedes (f :: fs) a b

theorem compareOptional_eq_lt_iff {a b : Option Json} :
    Json.compareOptional a b = .lt ↔ Lower a b := by
  constructor
  · intro h
    cases a with
    | none =>
      cases b with
      | none => cases h
      | some w => exact .missing
    | some v =>
      cases b with
      | none => cases h
      | some w => exact .less h
  · rintro (_ | h)
    · rfl
    · exact h

section

variable {f : String × Json} {k : SortKey} {a b : Json}

theorem order_eq_lt_iff (read : SortKey.ofField f.1 f.2 = .ok k) :
    k.order a b = .lt ↔ Leads f a b := by
  unfold SortKey.ofField at read
  rw [SortKey.order, Leads]
  split at read
  · rename_i up
    cases read
    simp [up, compareOptional_eq_lt_iff]
  · rename_i down
    cases read
    simp [down, ← Json.compareOptional_swap, compareOptional_eq_lt_iff]
  · cases read

theorem order_eq_eq_iff (read : SortKey.ofField f.1 f.2 = .ok k) :
    k.order a b = .eq ↔ ¬ Leads f a b ∧ ¬ Leads f b a := by
  rw [← order_eq_lt_iff read, ← order_eq_lt_iff read, k.order_swap a b]
  cases k.order a b <;> simp

variable {fs : Fields} {keys : List SortKey}

/-- **Documents are compared by the first field that tells them apart.** -/
theorem orderBy_eq_lt_iff
    (read : List.Forall₂ (fun f k => SortKey.ofField f.1 f.2 = .ok k) fs keys) :
    orderBy keys a b = .lt ↔ Precedes fs a b := by
  induction read with
  | nil => exact ⟨nofun, nofun⟩
  | @cons f k fs keys here _ ih =>
    change (k.order a b).then (orderBy keys a b) = .lt ↔ _
    rw [Ordering.then_eq_lt, order_eq_lt_iff here, order_eq_eq_iff here, ih]
    constructor
    · rintro (leads | ⟨⟨neither, nor⟩, precedes⟩)
      · exact .here leads
      · exact .later neither nor precedes
    · rintro (leads | ⟨neither, nor, precedes⟩)
      · exact .inl leads
      · exact .inr ⟨⟨neither, nor⟩, precedes⟩

theorem orderBy_eq_eq_iff
    (read : List.Forall₂ (fun f k => SortKey.ofField f.1 f.2 = .ok k) fs keys) :
    orderBy keys a b = .eq ↔ Ties fs a b := by
  induction read with
  | nil => simp [orderBy, Ties]
  | @cons f k fs keys here _ ih =>
    change (k.order a b).then (orderBy keys a b) = .eq ↔ _
    rw [Ordering.then_eq_eq, order_eq_eq_iff here, ih, Ties, Ties, List.forall_mem_cons]

end

/-- **Documents are sorted stably in the order that a specification asks for**, if their numbers are
all signed 64-bit integers, or none is (as among doubles): their comparator is a total preorder, and
what they are sorted into is the only list that is sorted stably by it. -/
theorem exists_sorted {fs : Fields} {docs : List Json}
    (directions : ∀ f ∈ fs, f.2.asInt64? = some 1 ∨ f.2.asInt64? = some (-1))
    (numbers : (∀ d ∈ docs, d.NumbersIn fun n => n.asInt64?.isSome) ∨
      ∀ d ∈ docs, d.NumbersIn fun n => n.asInt64? = none) :
    ∃ keys sorted, (fs.mapM fun f => SortKey.ofField f.1 f.2) = .ok keys ∧
      (∀ a b, (orderBy keys a b = .lt ↔ Precedes fs a b) ∧
        (orderBy keys a b = .eq ↔ Ties fs a b)) ∧
      (Std.TransCmp fun a b : {d // d ∈ docs} => orderBy keys a b) ∧
      sort (.obj fs) docs = .ok sorted ∧ SortedStably (orderBy keys) docs sorted ∧
      ∀ other, SortedStably (orderBy keys) docs other → other = sorted := by
  obtain ⟨P, sharp, numbers⟩ : ∃ P, Number.Unblurred P ∧ ∀ d ∈ docs, d.NumbersIn P := by
    rcases numbers with exact | inexact
    · exact ⟨_, Number.unblurred_of_int64, exact⟩
    · exact ⟨_, Number.unblurred_of_inexact, inexact⟩
  obtain ⟨keys, read⟩ := Fallible.exists_mapM (f := fun f : String × Json =>
    SortKey.ofField f.1 f.2) fun f hf => exists_ofField_iff.2 (directions f hf)
  have each := Fallible.mapM_eq_ok.1 read
  have preorder := transCmp_orderBy_of_mem sharp numbers keys
  have stably := sortBy_stably_of_mem preorder
  exact ⟨keys, _, read, fun a b => ⟨orderBy_eq_lt_iff each, orderBy_eq_eq_iff each⟩, preorder,
    Fallible.bind_eq_ok.2 ⟨keys, read, rfl⟩, stably, fun other h => h.unique stably⟩

/-- By one field up and then by another one down; the first document has the first field not. -/
theorem exists_sorted_two_keys :
    let fs : Fields := [("a", .int 1), ("b", .int (-1))]
    let doc (a b : Int) : Json := .obj [("a", .int a), ("b", .int b)]
    let missing : Json := .obj [("b", .int 5)]
    ∃ keys, (fs.mapM fun f => SortKey.ofField f.1 f.2) = .ok keys ∧
      SortedStably (orderBy keys) [doc 2 1, doc 1 1, doc 2 3, missing]
        [missing, doc 1 1, doc 2 3, doc 2 1] := by
  intro fs doc missing
  have number (i : Int) (h : FitsInt64 i) : (Json.int i).NumbersIn fun n => n.asInt64?.isSome :=
    .num (by rw [Number.asInt64?, if_pos h]; rfl)
  have both (a b : Int) (ha : FitsInt64 a) (hb : FitsInt64 b) :
      (doc a b).NumbersIn fun n => n.asInt64?.isSome :=
    .obj (by simpa using ⟨number a ha, number b hb⟩)
  have numbers : ∀ d ∈ [doc 2 1, doc 1 1, doc 2 3, missing],
      d.NumbersIn fun n => n.asInt64?.isSome := by
    simp only [List.forall_mem_cons]
    exact ⟨both 2 1 (by decide) (by decide), both 1 1 (by decide) (by decide),
      both 2 3 (by decide) (by decide), .obj (by simpa using number 5 (by decide)), by simp⟩
  obtain ⟨keys, sorted, read, -, -, done, stably, -⟩ :=
    exists_sorted (by decide : ∀ f ∈ fs, _) (.inl numbers)
  have result : sort (.obj fs) [doc 2 1, doc 1 1, doc 2 3, missing] =
    .ok [missing, doc 1 1, doc 2 3, doc 2 1] := by rfl
  cases done.symm.trans result
  exact ⟨keys, read, stably⟩

end Aggregation

end DocStore
