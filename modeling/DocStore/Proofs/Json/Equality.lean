import DocStore.Json.Order
import DocStore.Proofs.Json.Fields
import Mathlib.Data.List.Forall2

/-!
# Equality of values

Equality with numbers widened is reflexive and symmetric on values whose objects repeat no key
(`Json.equals_refl`, `Json.equals_symm`). With repeated keys it is not: only the first field of a
key is found.
-/

namespace DocStore

theorem Number.asInt64?_eq_some_iff {n : Number} {i : Int} :
    n.asInt64? = some i ↔ n = .int i ∧ FitsInt64 i := by
  cases n with
  | int j =>
    rw [asInt64?, Option.ite_none_right_eq_some, Option.some.injEq, int.injEq]
    constructor
    · rintro ⟨fits, rfl⟩
      exact ⟨rfl, fits⟩
    · rintro ⟨rfl, fits⟩
      exact ⟨fits, rfl⟩
  | double x => simp [asInt64?]

theorem Number.compareTo_self (n : Number) : n.compareTo n = .eq := by
  unfold Number.compareTo
  cases n.asInt64? with
  | none => exact Std.compare_self
  | some i => exact Std.compare_self

/-- Numbers compared the other way round reverse the outcome. -/
theorem Number.compareTo_swap (a b : Number) : b.compareTo a = (a.compareTo b).swap := by
  unfold Number.compareTo
  cases a.asInt64? <;> cases b.asInt64? <;> exact Std.OrientedOrd.eq_swap

theorem Number.compareTo_eq_symm {a b : Number} (h : a.compareTo b = .eq) :
    b.compareTo a = .eq := by
  rw [compareTo_swap, h]
  rfl

namespace Json

/-- No object inside a value repeats a key. -/
inductive WellFormed : Json → Prop where
  | null : WellFormed .null
  | bool (b : Bool) : WellFormed (.bool b)
  | num (n : Number) : WellFormed (.num n)
  | str (s : String) : WellFormed (.str s)
  | arr {xs : List Json} (items : ∀ x ∈ xs, WellFormed x) : WellFormed (.arr xs)
  | obj {fs : Fields} (distinct : (Fields.keys fs).Nodup) (values : ∀ f ∈ fs, WellFormed f.2) :
    WellFormed (.obj fs)

theorem WellFormed.items {xs : List Json} : (Json.arr xs).WellFormed → ∀ x ∈ xs, x.WellFormed
  | .arr items => items

theorem WellFormed.nodup_keys {fs : Fields} : (Json.obj fs).WellFormed → (Fields.keys fs).Nodup
  | .obj distinct _ => distinct

theorem WellFormed.values {fs : Fields} : (Json.obj fs).WellFormed → ∀ f ∈ fs, f.2.WellFormed
  | .obj _ values => values

theorem WellFormed.of_get? {fs : Fields} (h : (Json.obj fs).WellFormed) {k : String} {v : Json}
    (hv : Fields.get? fs k = some v) : v.WellFormed :=
  h.values (k, v) ((Fields.get?_eq_some_iff h.nodup_keys).1 hv)

/-- Objects are equal by looking each field of the first up in the second. -/
theorem equalFields_iff {fs gs : Fields} :
    equalFields fs gs = true ↔
      ∀ k v, (k, v) ∈ fs → ∃ w, Fields.get? gs k = some w ∧ v.equals w = true := by
  induction fs with
  | nil => simp [equalFields]
  | cons f fs ih =>
    obtain ⟨key, u⟩ := f
    rw [equalFields, Bool.and_eq_true, ih]
    constructor
    · rintro ⟨here, there⟩ k v hit
      rcases List.mem_cons.1 hit with same | hit
      · cases same
        split at here
        · rename_i w hw
          exact ⟨w, hw, here⟩
        · cases here
      · exact there k v hit
    · intro all
      refine ⟨?_, fun k v hit => all k v (List.mem_cons_of_mem _ hit)⟩
      obtain ⟨w, hw, equal⟩ := all key u (List.mem_cons_self ..)
      rw [Fields.get?] at hw
      rw [hw]
      exact equal

theorem equalItems_iff {xs ys : List Json} :
    equalItems xs ys = true ↔ List.Forall₂ (fun x y => x.equals y = true) xs ys := by
  induction xs generalizing ys with
  | nil => cases ys <;> simp [equalItems]
  | cons x xs ih => cases ys <;> simp [equalItems, ih]

/-- **Equality is reflexive** where no key is repeated. -/
theorem equals_refl {v : Json} (wf : v.WellFormed) : v.equals v = true := by
  induction wf with
  | null => rfl
  | bool b => exact beq_self_eq_true b
  | str s => exact beq_self_eq_true s
  | num n => rw [equals, Number.compareTo_self, beq_self_eq_true]
  | arr _ ih => rwa [equals, equalItems_iff, List.forall₂_same]
  | obj distinct _ ih =>
    rw [equals, beq_self_eq_true, Bool.true_and, equalFields_iff]
    intro k v mem
    exact ⟨v, (Fields.get?_eq_some_iff distinct).2 mem, ih _ mem⟩

/-- Equality of arrays is symmetric if that of their items is. -/
theorem equalItems_symm {xs : List Json}
    (h : ∀ x ∈ xs, ∀ y, y.WellFormed → x.equals y = true → y.equals x = true) {ys : List Json}
    (wf : ∀ y ∈ ys, y.WellFormed) (equal : equalItems xs ys = true) : equalItems ys xs = true := by
  induction xs generalizing ys with
  | nil =>
    cases ys with
    | nil => rfl
    | cons y ys => cases equal
  | cons x xs ih =>
    cases ys with
    | nil => cases equal
    | cons y ys =>
      obtain ⟨here, there⟩ := List.forall_mem_cons.1 h
      obtain ⟨wfy, wfys⟩ := List.forall_mem_cons.1 wf
      rw [equalItems, Bool.and_eq_true] at equal ⊢
      exact ⟨here y wfy equal.1, ih there wfys equal.2⟩

/-- Equality of objects is symmetric if that of their values is: equally many keys, each found
in the other object, are the same keys. -/
theorem equalFields_symm {fs gs : Fields} (hf : (Fields.keys fs).Nodup)
    (hg : (Json.obj gs).WellFormed)
    (h : ∀ f ∈ fs, ∀ y, y.WellFormed → f.2.equals y = true → y.equals f.2 = true)
    (length : fs.length = gs.length) (equal : equalFields fs gs = true) :
    equalFields gs fs = true := by
  have found := equalFields_iff.1 equal
  have subset : Fields.keys fs ⊆ Fields.keys gs := by
    intro k hk
    obtain ⟨⟨_, v⟩, hf, rfl⟩ := List.mem_map.1 hk
    obtain ⟨w, hw, -⟩ := found _ v hf
    exact List.mem_map.2 ⟨_, (Fields.get?_eq_some_iff hg.nodup_keys).1 hw, rfl⟩
  have perm : (Fields.keys fs).Perm (Fields.keys gs) :=
    (List.subperm_of_subset hf subset).perm_of_length_le (by simp [Fields.keys, length])
  refine equalFields_iff.2 fun k w hw => ?_
  have hk : k ∈ Fields.keys fs := perm.mem_iff.2 (List.mem_map.2 ⟨_, hw, rfl⟩)
  obtain ⟨⟨_, v⟩, hv, rfl⟩ := List.mem_map.1 hk
  obtain ⟨w', hw', equal⟩ := found _ v hv
  have same := (Fields.get?_eq_some_iff hg.nodup_keys).2 hw
  obtain rfl : w' = w := Option.some.inj (hw'.symm.trans same)
  exact ⟨v, (Fields.get?_eq_some_iff hf).2 hv, h _ hv w' (hg.of_get? hw') equal⟩

/-- **Equality is symmetric** where no key is repeated. -/
theorem equals_symm {a b : Json} (ha : a.WellFormed) (hb : b.WellFormed)
    (equal : a.equals b = true) : b.equals a = true := by
  induction ha generalizing b with
  | null => cases b <;> simp_all [equals]
  | bool p => cases b <;> simp_all [equals]
  | str s => cases b <;> simp_all [equals]
  | num n =>
    cases b with
    | num m =>
      rw [equals, beq_iff_eq] at equal ⊢
      exact Number.compareTo_eq_symm equal
    | _ => simp [equals] at equal
  | arr items ih =>
    cases b with
    | arr ys =>
      rw [equals] at equal ⊢
      exact equalItems_symm (fun x hx y hy => ih x hx hy) hb.items equal
    | _ => simp [equals] at equal
  | obj distinct values ih =>
    cases b with
    | obj gs =>
      rw [equals, Bool.and_eq_true, beq_iff_eq] at equal ⊢
      exact ⟨equal.1.symm, equalFields_symm distinct hb (fun f hf y hy => ih f hf hy) equal.1 equal.2⟩
    | _ => simp [equals] at equal

end Json

end DocStore
