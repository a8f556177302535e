import DocStore.Proofs.Binary64.Monotone
import DocStore.Proofs.Json.Equality
import Mathlib.Tactic.Tauto

/-!
# The order of values

Comparing values the other way round reverses the outcome (`Json.compareTo_swap`). The order is
transitive on values whose numbers are not blurred: signed 64-bit integers are compared exactly and
all other numbers as doubles, so that a double can equal two integers that differ (`Number.Blurs`),
and nothing else breaks transitivity (`Json.isLE_compareTo_trans_iff`). Values that compare as equal
are those that are equal and list their keys in the same order (`Json.compareTo_eq_iff`).
-/

namespace DocStore

/-! ## Outcomes of comparisons -/

/-- How the outcome of a comparison follows from two others in an order: from the first that tells a
difference. -/
def Composes (ab bc ac : Ordering) : Prop := ab.isLE → bc.isLE → ac = ab.then bc

theorem Composes.isLE {ab bc ac : Ordering} (h : Composes ab bc ac) (left : ab.isLE)
    (right : bc.isLE) : ac.isLE := by
  rw [h left right]
  cases ab <;> cases bc <;> simp_all

/-- Comparisons compose where the order is transitive on three items, taken in any order. -/
theorem composes_of_trans {ab bc ac : Ordering} (abc : ab.isLE → bc.isLE → ac.isLE)
    (bca : bc.isLE → ac.swap.isLE → ab.swap.isLE) (cab : ac.swap.isLE → ab.isLE → bc.swap.isLE)
    (cba : bc.swap.isLE → ab.swap.isLE → ac.swap.isLE) : Composes ab bc ac := by
  intro left right
  cases ab <;> cases bc <;> cases ac <;> simp_all

theorem composes_compare {α : Type} [Ord α] [Std.TransOrd α] (a b c : α) :
    Composes (compare a b) (compare b c) (compare a c) := by
  have swap (x y : α) : (compare x y).swap = compare y x := Std.OrientedOrd.eq_swap.symm
  refine composes_of_trans Std.TransOrd.isLE_trans ?_ ?_ ?_ <;>
    simp only [swap] <;> exact Std.TransOrd.isLE_trans

/-- Comparisons by one thing and then by another compose if those by the second do where the first
says nothing. -/
theorem Composes.and_then {ab bc ac ab' bc' ac' : Ordering} (first : Composes ab bc ac)
    (second : ab = .eq → bc = .eq → Composes ab' bc' ac') :
    Composes (ab.then ab') (bc.then bc') (ac.then ac') := by
  intro left right
  cases ab <;> cases bc <;> simp_all [Composes]
  -- the first comparison ties the left pair only, and so the right pair decides
  cases ab' <;> simp_all

/-! ## Numbers -/

namespace Number

theorem asInt64?_eq_some {n : Number} {i : Int} (h : n.asInt64? = some i) :
    n.toBinary64 = .ofInt i ∧ FitsInt64 i := by
  obtain ⟨rfl, fits⟩ := asInt64?_eq_some_iff.1 h
  exact ⟨rfl, fits⟩

/-- One number is at most another if it is as a double and, where both are signed 64-bit integers,
as an integer. -/
theorem isLE_compareTo {a b : Number} : (a.compareTo b).isLE ↔
    a.toBinary64.units ≤ b.toBinary64.units ∧
      ∀ i j, a.asInt64? = some i → b.asInt64? = some j → i ≤ j := by
  unfold compareTo
  cases hi : a.asInt64? with
  | none => simp [Binary64.compareValue, Std.isLE_compare]
  | some i =>
    cases hj : b.asInt64? with
    | none => simp [Binary64.compareValue, Std.isLE_compare]
    | some j =>
      obtain ⟨left, fitsLeft⟩ := asInt64?_eq_some hi
      obtain ⟨right, fitsRight⟩ := asInt64?_eq_some hj
      rw [left, right]
      simp only [Std.isLE_compare, Option.some.injEq]
      constructor
      · intro le
        exact ⟨Binary64.units_ofInt_mono (by omega) (by omega) le, by rintro _ _ rfl rfl; exact le⟩
      · rintro ⟨-, le⟩
        exact le i j rfl rfl

/-- A number blurs two signed 64-bit integers that differ: it is none itself, and all three are the
same double. -/
def Blurs (d m n : Number) : Prop :=
  ∃ i j, m.asInt64? = some i ∧ n.asInt64? = some j ∧ i < j ∧ d.asInt64? = none ∧
    m.toBinary64.units = d.toBinary64.units ∧ n.toBinary64.units = d.toBinary64.units

/-- Some numbers are blurred by none among them. -/
def Unblurred (P : Number → Prop) : Prop := ∀ d m n, P d → P m → P n → ¬ d.Blurs m n

theorem isLE_compareTo_trans {P : Number → Prop} (sharp : Unblurred P) {a b c : Number} (ha : P a)
    (hb : P b) (hc : P c) (ab : (a.compareTo b).isLE) (bc : (b.compareTo c).isLE) :
    (a.compareTo c).isLE := by
  rw [isLE_compareTo] at ab bc ⊢
  refine ⟨Int.le_trans ab.1 bc.1, fun i k hi hk => ?_⟩
  cases hj : b.asInt64? with
  | some j => exact Int.le_trans (ab.2 i j hi hj) (bc.2 j k hj hk)
  | none =>
    by_contra greater
    obtain ⟨left, fitsLeft⟩ := asInt64?_eq_some hi
    obtain ⟨right, fitsRight⟩ := asInt64?_eq_some hk
    have back := @Binary64.units_ofInt_mono k i (by omega) (by omega) (by omega)
    rw [← left, ← right] at back
    exact sharp b c a hb hc ha ⟨k, i, hk, hi, by omega, hj, by omega, by omega⟩

theorem composes {P : Number → Prop} (sharp : Unblurred P) {a b c : Number} (ha : P a) (hb : P b)
    (hc : P c) : Composes (a.compareTo b) (b.compareTo c) (a.compareTo c) := by
  refine composes_of_trans (isLE_compareTo_trans sharp ha hb hc) ?_ ?_ ?_ <;>
    simp only [← compareTo_swap]
  · exact isLE_compareTo_trans sharp hb hc ha
  · exact isLE_compareTo_trans sharp hc ha hb
  · exact isLE_compareTo_trans sharp hc hb ha

/-- Signed 64-bit integers are unblurred, as nothing is compared as a double. -/
theorem unblurred_of_int64 : Unblurred fun n => n.asInt64?.isSome := by
  rintro d m n hd - - ⟨i, j, -, -, -, none, -⟩
  simp [none] at hd

/-- Numbers that are no signed 64-bit integers are unblurred, as all are compared as doubles. -/
theorem unblurred_of_inexact : Unblurred fun n => n.asInt64? = none := by
  rintro d m n - hm - ⟨i, j, exact, -⟩
  cases hm.symm.trans exact

/-- A number that is no integer beyond `2 ^ 53`. Doubles can be of any size. -/
def Small (n : Number) : Prop := ∀ i, n.asInt64? = some i → i.natAbs ≤ 9007199254740992

/-- Small numbers are unblurred: each integer is a double of its own. -/
theorem unblurred_of_small : Unblurred Small := by
  rintro d m n - hm hn ⟨i, j, hi, hj, less, -, low, high⟩
  rw [(asInt64?_eq_some hi).1, Binary64.units_ofInt_of_small (hm i hi)] at low
  rw [(asInt64?_eq_some hj).1, Binary64.units_ofInt_of_small (hn j hj)] at high
  have positive : (Binary64.unitsPerOne : Int) ≠ 0 := by
    have := Binary64.unitsPerOne_pos
    omega
  have same := Int.eq_of_mul_eq_mul_right positive (low.trans high.symm)
  omega

/-- Where two integers are blurred, the greater is at most the number between, and that at most the
smaller. -/
theorem Blurs.intransitive {d m n : Number} (h : d.Blurs m n) :
    (n.compareTo d).isLE ∧ (d.compareTo m).isLE ∧ ¬ (n.compareTo m).isLE := by
  obtain ⟨i, j, hi, hj, less, hd, low, high⟩ := h
  simp only [isLE_compareTo, hi, hj, hd]
  refine ⟨⟨Int.le_of_eq high, by simp⟩, ⟨Int.le_of_eq low.symm, by simp⟩, fun le => ?_⟩
  have := le.2 j i rfl rfl
  omega

end Number

namespace Json

/-- Induction on values, with the hypothesis for every item and every field. -/
@[elab_as_elim]
theorem inductionOn {motive : Json → Prop} (v : Json) (null : motive .null)
    (bool : ∀ b, motive (.bool b)) (num : ∀ n, motive (.num n)) (str : ∀ s, motive (.str s))
    (arr : ∀ xs, (∀ x ∈ xs, motive x) → motive (.arr xs))
    (obj : ∀ fs : Fields, (∀ f ∈ fs, motive f.2) → motive (.obj fs)) : motive v :=
  v.rec null bool num str arr obj
    (by simp) (fun _ _ head tail => List.forall_mem_cons.2 ⟨head, tail⟩)
    (by simp) (fun _ _ head tail => List.forall_mem_cons.2 ⟨head, tail⟩) fun _ _ value => value

/-- All numbers inside a value are of a given sort. -/
inductive NumbersIn (P : Number → Prop) : Json → Prop where
  | null : NumbersIn P .null
  | bool (b : Bool) : NumbersIn P (.bool b)
  | num {n : Number} (h : P n) : NumbersIn P (.num n)
  | str (s : String) : NumbersIn P (.str s)
  | arr {xs : List Json} (items : ∀ x ∈ xs, NumbersIn P x) : NumbersIn P (.arr xs)
  | obj {fs : Fields} (values : ∀ f ∈ fs, NumbersIn P f.2) : NumbersIn P (.obj fs)

/-! ## Reversal -/

theorem compareItems_swap {xs : List Json}
    (each : ∀ x ∈ xs, ∀ y : Json, y.compareTo x = (x.compareTo y).swap) (ys : List Json) :
    compareItems ys xs = (compareItems xs ys).swap := by
  induction xs generalizing ys with
  | nil => cases ys <;> rfl
  | cons x xs ih =>
    cases ys with
    | nil => rfl
    | cons y ys =>
      obtain ⟨here, there⟩ := List.forall_mem_cons.1 each
      rw [compareItems, compareItems, here, ih there, Ordering.swap_then]

theorem compareFields_swap {fs : Fields}
    (each : ∀ f ∈ fs, ∀ y : Json, y.compareTo f.2 = (f.2.compareTo y).swap) (gs : Fields) :
    compareFields gs fs = (compareFields fs gs).swap := by
  induction fs generalizing gs with
  | nil => cases gs <;> rfl
  | cons f fs ih =>
    cases gs with
    | nil => rfl
    | cons g gs =>
      obtain ⟨here, there⟩ := List.forall_mem_cons.1 each
      rw [compareFields, compareFields, here, ih there, Ordering.swap_then, Ordering.swap_then,
        Std.OrientedOrd.eq_swap]

/-- The order of types decides first. -/
theorem compareTo_eq_then (a b : Json) :
    a.compareTo b = (compare a.rank b.rank).then (a.compareTo b) := by
  cases a <;> cases b <;> rfl

/-- **Comparing the other way round reverses the outcome.** -/
theorem compareTo_swap (a b : Json) : b.compareTo a = (a.compareTo b).swap := by
  induction a using inductionOn generalizing b with
  | null => cases b <;> rfl
  | bool p =>
    cases b with
    | bool q => exact Std.OrientedOrd.eq_swap
    | _ => rfl
  | num m =>
    cases b with
    | num n => exact m.compareTo_swap n
    | _ => rfl
  | str s =>
    cases b with
    | str t => exact Std.OrientedOrd.eq_swap
    | _ => rfl
  | arr xs ih =>
    cases b with
    | arr ys => exact compareItems_swap ih ys
    | _ => rfl
  | obj fs ih =>
    cases b with
    | obj gs => exact compareFields_swap ih gs
    | _ => rfl

/-! ## Transitivity -/

section

variable {P : Number → Prop}

theorem composes_items {xs : List Json}
    (each : ∀ x ∈ xs, ∀ y z : Json, y.NumbersIn P → z.NumbersIn P →
      Composes (x.compareTo y) (y.compareTo z) (x.compareTo z)) {ys zs : List Json}
    (hy : ∀ y ∈ ys, y.NumbersIn P) (hz : ∀ z ∈ zs, z.NumbersIn P) :
    Composes (compareItems xs ys) (compareItems ys zs) (compareItems xs zs) := by
  induction xs generalizing ys zs with
  | nil => cases ys <;> cases zs <;> simp [compareItems, Composes]
  | cons x xs ih =>
    cases ys with
    | nil => cases zs <;> simp [compareItems, Composes]
    | cons y ys =>
      cases zs with
      | nil => simp [compareItems, Composes]
      | cons z zs =>
        obtain ⟨here, there⟩ := List.forall_mem_cons.1 each
        obtain ⟨hy, hys⟩ := List.forall_mem_cons.1 hy
        obtain ⟨hz, hzs⟩ := List.forall_mem_cons.1 hz
        exact (here y z hy hz).and_then fun _ _ => ih there hys hzs

theorem composes_fields {fs : Fields}
    (each : ∀ f ∈ fs, ∀ y z : Json, y.NumbersIn P → z.NumbersIn P →
      Composes (f.2.compareTo y) (y.compareTo z) (f.2.compareTo z)) {gs hs : Fields}
    (hg : ∀ g ∈ gs, g.2.NumbersIn P) (hh : ∀ h ∈ hs, h.2.NumbersIn P) :
    Composes (compareFields fs gs) (compareFields gs hs) (compareFields fs hs) := by
  induction fs generalizing gs hs with
  | nil => cases gs <;> cases hs <;> simp [compareFields, Composes]
  | cons f fs ih =>
    cases gs with
    | nil => cases hs <;> simp [compareFields, Composes]
    | cons g gs =>
      cases hs with
      | nil => simp [compareFields, Composes]
      | cons h hs =>
        obtain ⟨here, there⟩ := List.forall_mem_cons.1 each
        obtain ⟨hg, hgs⟩ := List.forall_mem_cons.1 hg
        obtain ⟨hh, hhs⟩ := List.forall_mem_cons.1 hh
        have keys := composes_compare f.1 g.1 h.1
        exact (keys.and_then fun _ _ => here g.2 h.2 hg hh).and_then fun _ _ => ih there hgs hhs

/-- Values of different types compare by their types, and only those of one type need a look. -/
theorem composes_of_rank {a b c : Json} (same : a.rank = b.rank → b.rank = c.rank →
    Composes (a.compareTo b) (b.compareTo c) (a.compareTo c)) :
    Composes (a.compareTo b) (b.compareTo c) (a.compareTo c) := by
  rw [compareTo_eq_then a b, compareTo_eq_then b c, compareTo_eq_then a c]
  exact (composes_compare a.rank b.rank c.rank).and_then fun ab bc =>
    same (Std.compare_eq_iff_eq.1 ab) (Std.compare_eq_iff_eq.1 bc)

/-- Comparisons of values compose where their numbers are not blurred. -/
theorem composes (sharp : Number.Unblurred P) {a : Json} (ha : a.NumbersIn P) (b c : Json)
    (hb : b.NumbersIn P) (hc : c.NumbersIn P) :
    Composes (a.compareTo b) (b.compareTo c) (a.compareTo c) := by
  induction ha generalizing b c with
  | null =>
    refine composes_of_rank fun ab bc => ?_
    cases hb with
    | null =>
      cases hc with
      | null => exact fun _ _ => rfl
      | _ => simp [rank] at bc
    | _ => simp [rank] at ab
  | bool p =>
    refine composes_of_rank fun ab bc => ?_
    cases hb with
    | bool q =>
      cases hc with
      | bool r => exact composes_compare p q r
      | _ => simp [rank] at bc
    | _ => simp [rank] at ab
  | num hl =>
    refine composes_of_rank fun ab bc => ?_
    cases hb with
    | num hm =>
      cases hc with
      | num hn => exact Number.composes sharp hl hm hn
      | _ => simp [rank] at bc
    | _ => simp [rank] at ab
  | str s =>
    refine composes_of_rank fun ab bc => ?_
    cases hb with
    | str t =>
      cases hc with
      | str u => exact composes_compare s t u
      | _ => simp [rank] at bc
    | _ => simp [rank] at ab
  | arr _ ih =>
    refine composes_of_rank fun ab bc => ?_
    cases hb with
    | arr ys =>
      cases hc with
      | arr zs => exact composes_items ih ys zs
      | _ => simp [rank] at bc
    | _ => simp [rank] at ab
  | obj _ ih =>
    refine composes_of_rank fun ab bc => ?_
    cases hb with
    | obj gs =>
      cases hc with
      | obj hs => exact composes_fields ih gs hs
      | _ => simp [rank] at bc
    | _ => simp [rank] at ab

/-- **The order of values is transitive exactly as far as no number blurs two integers.** -/
theorem isLE_compareTo_trans_iff : Number.Unblurred P ↔
    ∀ a b c : Json, a.NumbersIn P → b.NumbersIn P → c.NumbersIn P →
      (a.compareTo b).isLE → (b.compareTo c).isLE → (a.compareTo c).isLE := by
  constructor
  · intro sharp a b c ha hb hc
    exact (composes sharp ha b c hb hc).isLE
  · intro trans d m n hd hm hn blurs
    obtain ⟨nd, dm, nm⟩ := blurs.intransitive
    exact nm (trans (.num n) (.num d) (.num m) (.num hn) (.num hd) (.num hm) nd dm)

end

/-! ## Equality -/

mutual

/-- The arrays and the keys of a value, in their order. -/
def outline : Json → Json
  | .arr xs => .arr (outlineItems xs)
  | .obj fs => .obj (outlineFields fs)
  | _ => .null

def outlineItems : List Json → List Json
  | [] => []
  | x :: xs => outline x :: outlineItems xs

def outlineFields : List (String × Json) → Fields
  | [] => []
  | (k, v) :: rest => (k, outline v) :: outlineFields rest

end

theorem length_outlineFields (fs : Fields) : (outlineFields fs).length = fs.length := by
  induction fs with
  | nil => rfl
  | cons f fs ih => rw [outlineFields, List.length_cons, List.length_cons, ih]

theorem compareItems_eq_iff {xs : List Json}
    (each : ∀ x ∈ xs, ∀ y : Json, y.WellFormed →
      (x.compareTo y = .eq ↔ x.equals y = true ∧ x.outline = y.outline)) {ys : List Json}
    (wf : ∀ y ∈ ys, y.WellFormed) :
    compareItems xs ys = .eq ↔ equalItems xs ys = true ∧ outlineItems xs = outlineItems ys := by
  induction xs generalizing ys with
  | nil => cases ys <;> simp [compareItems, equalItems, outlineItems]
  | cons x xs ih =>
    cases ys with
    | nil => simp [compareItems, equalItems]
    | cons y ys =>
      obtain ⟨here, there⟩ := List.forall_mem_cons.1 each
      obtain ⟨wfy, wfys⟩ := List.forall_mem_cons.1 wf
      rw [compareItems, Ordering.then_eq_eq, here y wfy, ih there wfys]
      simp only [equalItems, outlineItems, Bool.and_eq_true, List.cons.injEq]
      tauto

/-- Objects that list the same keys are compared field by field, and so they are equal: with no key
repeated, the field found under a key is the one beside it. -/
theorem compareFields_eq_iff {fs all : Fields}
    (each : ∀ f ∈ fs, ∀ y : Json, y.WellFormed →
      (f.2.compareTo y = .eq ↔ f.2.equals y = true ∧ f.2.outline = y.outline)) {gs : Fields}
    (wf : ∀ g ∈ gs, g.2.WellFormed) (found : ∀ g ∈ gs, Fields.get? all g.1 = some g.2) :
    compareFields fs gs = .eq ↔ equalFields fs all = true ∧ outlineFields fs = outlineFields gs := by
  induction fs generalizing gs with
  | nil => cases gs <;> simp [compareFields, equalFields, outlineFields]
  | cons f fs ih =>
    obtain ⟨k, v⟩ := f
    cases gs with
    | nil => simp [compareFields, outlineFields]
    | cons g gs =>
      obtain ⟨l, w⟩ := g
      obtain ⟨here, there⟩ := List.forall_mem_cons.1 each
      obtain ⟨wfw, wfs⟩ := List.forall_mem_cons.1 wf
      obtain ⟨foundHere, foundThere⟩ := List.forall_mem_cons.1 found
      rw [compareFields, Ordering.then_eq_eq, Ordering.then_eq_eq, Std.compare_eq_iff_eq, here w wfw,
        ih there wfs foundThere]
      simp only [equalFields, outlineFields, Bool.and_eq_true, List.cons.injEq, Prod.mk.injEq]
      by_cases same : k = l
      · subst same
        rw [Fields.get?] at foundHere
        simp only [foundHere]
        tauto
      · simp [same]

/-- **Values compare as equal exactly if they are equal and list their keys in the same order.** -/
theorem compareTo_eq_iff {a b : Json} (ha : a.WellFormed) (hb : b.WellFormed) :
    a.compareTo b = .eq ↔ a.equals b = true ∧ a.outline = b.outline := by
  induction ha generalizing b with
  | null => cases b <;> simp [compareTo, equals, outline, rank]
  | bool p => cases b <;> simp [compareTo, equals, outline, rank]
  | num m => cases b <;> simp [compareTo, equals, outline, rank]
  | str s => cases b <;> simp [compareTo, equals, outline, rank]
  | arr _ ih =>
    cases hb with
    | arr items =>
      rw [compareTo, equals, outline, outline, compareItems_eq_iff (fun x hx y => ih x hx) items,
        arr.injEq]
    | _ => simp [compareTo, equals, rank]
  | @obj fs distinct values ih =>
    cases hb with
    | @obj gs distinct' values' =>
      have found : ∀ g ∈ gs, Fields.get? gs g.1 = some g.2 := fun g hg =>
        (Fields.get?_eq_some_iff distinct').2 hg
      rw [compareTo, equals, outline, outline,
        compareFields_eq_iff (fun f hf y => ih f hf) values' found, obj.injEq, Bool.and_eq_true,
        beq_iff_eq]
      have length : outlineFields fs = outlineFields gs → fs.length = gs.length := fun same => by
        rw [← length_outlineFields, same, length_outlineFields]
      tauto
    | _ => simp [compareTo, equals, rank]

/-! ## The laws -/

/-- **What the order of values guarantees.** The outcome is reversed with the operands; the order is
transitive on the values whose numbers are of a given sort exactly if none of these blurs two
integers; and values without repeated keys compare as equal exactly if they are equal and list their
keys in the same order. -/
theorem compareTo_laws (P : Number → Prop) :
    (∀ a b : Json, b.compareTo a = (a.compareTo b).swap) ∧
    (Number.Unblurred P ↔
      ∀ a b c : Json, a.NumbersIn P → b.NumbersIn P → c.NumbersIn P →
        (a.compareTo b).isLE → (b.compareTo c).isLE → (a.compareTo c).isLE) ∧
    ∀ a b : Json, a.WellFormed → b.WellFormed →
      (a.compareTo b = .eq ↔ a.equals b = true ∧ a.outline = b.outline) :=
  ⟨compareTo_swap, isLE_compareTo_trans_iff, fun _ _ => compareTo_eq_iff⟩

/-- A double between two small integers, and an object beside itself. -/
theorem compareTo_laws_small :
    ((Json.int 1).compareTo (.num (.double (.ofInt 2)))).isLE ∧
    ((Json.num (.double (.ofInt 2))).compareTo (.int 3)).isLE ∧
    ((Json.int 1).compareTo (.int 3)).isLE ∧
    (Json.obj [("b", .int 2), ("a", .null)]).compareTo (.obj [("b", .int 2), ("a", .null)]) = .eq := by
  obtain ⟨-, transitive, equal⟩ := compareTo_laws Number.Small
  have wf : (Json.obj [("b", .int 2), ("a", .null)]).WellFormed :=
    .obj (by decide) (by simp [WellFormed.null, WellFormed.num, Json.int])
  have small (i : Int) (h : i.natAbs ≤ 9007199254740992) : (Json.int i).NumbersIn Number.Small :=
    .num fun j hj => by
      rw [Number.asInt64?, if_pos (by omega)] at hj
      exact Option.some.inj hj ▸ h
  have double : (Json.num (.double (.ofInt 2))).NumbersIn Number.Small := .num (by rintro _ ⟨⟩)
  have left : ((Json.int 1).compareTo (.num (.double (.ofInt 2)))).isLE := by decide +kernel
  have right : ((Json.num (.double (.ofInt 2))).compareTo (.int 3)).isLE := by decide +kernel
  exact ⟨left, right, transitive.1 Number.unblurred_of_small _ _ _ (small 1 (by omega)) double
    (small 3 (by omega)) left right, (equal _ _ wf wf).2 ⟨equals_refl wf, rfl⟩⟩

/-- One above `2 ^ 53` is at most the double `2 ^ 53`, which is at most the integer `2 ^ 53`; and two
objects are equal of which one is greater than the other. -/
theorem not_compareTo_laws :
    (Json.int 9007199254740993).compareTo (.num (.double (.ofInt 9007199254740992))) = .eq ∧
    (Json.num (.double (.ofInt 9007199254740992))).compareTo (.int 9007199254740992) = .eq ∧
    (Json.int 9007199254740993).compareTo (.int 9007199254740992) = .gt ∧
    (Json.obj [("b", .int 2), ("a", .int 1)]).equals (.obj [("a", .int 1), ("b", .int 2)]) = true ∧
    (Json.obj [("b", .int 2), ("a", .int 1)]).compareTo (.obj [("a", .int 1), ("b", .int 2)]) = .gt := by
  refine ⟨?_, ?_, ?_, ?_, ?_⟩ <;> decide +kernel

end Json

end DocStore
