import DocStore.Aggregation.Sorting
import DocStore.Proofs.Fallible
import Mathlib.Data.List.Perm.Basic

/-!
# Sorting loses and adds nothing

A list that is sorted holds the same items (`sortBy_perm`, `perm_of_sort`), and whether documents can
be sorted by a specification depends on its directions alone (`exists_sort_iff`).
-/

namespace DocStore.Aggregation

open List (Perm)

/-! ## Insertion -/

section

variable {α : Type} (less : α → α → Bool)

theorem insertDown_perm (x : α) (xs : List α) : Perm (insertDown less x xs) (x :: xs) := by
  induction xs with
  | nil => exact .refl _
  | cons y ys ih =>
    rw [insertDown]
    split
    · exact (ih.cons y).trans (.swap x y ys)
    · exact .refl _

theorem foldl_insertDown_perm (xs sorted : List α) :
    Perm (xs.foldl (fun sorted x => insertDown less x sorted) sorted) (xs ++ sorted) := by
  induction xs generalizing sorted with
  | nil => exact .refl _
  | cons x xs ih =>
    have here := (insertDown_perm less x sorted).append_left xs
    exact ((ih _).trans here).trans List.perm_middle

/-- A sorted list is the list in another order, whatever the comparisons say. -/
theorem sortBy_perm (xs : List α) : Perm (sortBy less xs) xs := by
  have inserted := foldl_insertDown_perm less xs []
  rw [List.append_nil] at inserted
  exact (List.reverse_perm _).trans inserted

end

/-! ## Specifications -/

/-- A specification of fields to sort by, each of them up or down. -/
def IsSortSpec (spec : Json) : Prop :=
  ∃ fs, spec = .obj fs ∧ ∀ f ∈ fs, f.2.asInt64? = some 1 ∨ f.2.asInt64? = some (-1)

theorem exists_ofField_iff {field : String} {direction : Json} :
    (∃ key, SortKey.ofField field direction = .ok key) ↔
      direction.asInt64? = some 1 ∨ direction.asInt64? = some (-1) := by
  unfold SortKey.ofField
  split
  · rename_i up
    simp [up]
  · rename_i down
    simp [down]
  · rename_i up down
    simpa using ⟨up, down⟩

/-- Exactly the specifications whose directions are all known can be sorted by. -/
theorem exists_sort_iff {spec : Json} (docs : List Json) :
    (∃ sorted, sort spec docs = .ok sorted) ↔ IsSortSpec spec := by
  constructor
  · rintro ⟨sorted, h⟩
    cases spec with
    | obj fs =>
      obtain ⟨keys, read, -⟩ := Fallible.bind_eq_ok.1 h
      refine ⟨fs, rfl, fun f hf => ?_⟩
      obtain ⟨key, -, here⟩ := Fallible.exists_of_mem (Fallible.mapM_eq_ok.1 read).flip hf
      exact exists_ofField_iff.1 ⟨key, here⟩
    | _ => cases h
  · rintro ⟨fs, rfl, directions⟩
    obtain ⟨keys, read⟩ := Fallible.exists_mapM (f := fun f : String × Json =>
      SortKey.ofField f.1 f.2) fun f hf => exists_ofField_iff.2 (directions f hf)
    exact ⟨_, Fallible.bind_eq_ok.2 ⟨keys, read, rfl⟩⟩

/-- Sorted documents are the documents that were given. -/
theorem perm_of_sort {spec : Json} {docs sorted : List Json} (h : sort spec docs = .ok sorted) :
    Perm sorted docs := by
  cases spec with
  | obj fs =>
    obtain ⟨keys, -, h⟩ := Fallible.bind_eq_ok.1 h
    cases h
    exact sortBy_perm _ docs
  | _ => cases h

end DocStore.Aggregation
