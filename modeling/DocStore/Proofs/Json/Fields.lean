import DocStore.Json
import Mathlib.Data.List.Nodup
import Mathlib.Data.List.Perm.Basic

/-!
# Objects without repeated keys

Reading a key after another one was written or removed. Removing moves the last field, so what it
leaves under the other keys is only certain where no key is repeated.
-/

namespace DocStore.Fields

/-- The keys of an object, in order. -/
def keys (fs : Fields) : List String := fs.map (·.1)

theorem get?_cons (k : String) (v : Json) (fs : Fields) (l : String) :
    get? ((k, v) :: fs) l = if l = k then some v else get? fs l := by
  by_cases h : l = k
  · simp [get?, h]
  · have : (l == k) = false := beq_false_of_ne h
    simp [get?, List.lookup_cons, h, this]

theorem get?_insert_self (k : String) (v : Json) (fs : Fields) : (insert k v fs).get? k = some v := by
  induction fs with
  | nil => simp [insert, get?]
  | cons f fs ih =>
    obtain ⟨key, w⟩ := f
    rw [insert]
    split
    · rename_i same
      obtain rfl : key = k := by simpa using same
      simp [get?_cons]
    · rename_i other
      have ne : k ≠ key := fun same => other (by simp [same])
      rw [get?_cons, if_neg ne, ih]

theorem get?_insert_of_ne {k l : String} (h : l ≠ k) (v : Json) (fs : Fields) :
    (insert k v fs).get? l = get? fs l := by
  induction fs with
  | nil => simp [insert, get?, h]
  | cons f fs ih =>
    obtain ⟨key, w⟩ := f
    rw [insert]
    split
    · rename_i same
      obtain rfl : key = k := by simpa using same
      rw [get?_cons, get?_cons, if_neg h, if_neg h]
    · rw [get?_cons, get?_cons, ih]

/-- The later of two values under a key is the one that stays. -/
theorem insert_insert (k : String) (v w : Json) (fs : Fields) :
    insert k w (insert k v fs) = insert k w fs := by
  induction fs with
  | nil => simp [insert]
  | cons f fs ih =>
    obtain ⟨key, u⟩ := f
    by_cases same : key = k
    · simp [insert, same]
    · simp [insert, same, ih]

theorem isSome_get?_iff {fs : Fields} {k : String} : (get? fs k).isSome ↔ k ∈ keys fs := by
  induction fs with
  | nil => simp [get?, keys]
  | cons f fs ih =>
    obtain ⟨key, w⟩ := f
    rw [get?_cons]
    split
    · rename_i same
      simp [keys, same]
    · rename_i other
      simpa [keys, other] using ih

/-- A field that is written adds its key, and no other. -/
theorem mem_keys_insert {k l : String} {v : Json} {fs : Fields} :
    l ∈ keys (insert k v fs) ↔ l = k ∨ l ∈ keys fs := by
  induction fs with
  | nil => simp [insert, keys]
  | cons f fs ih =>
    obtain ⟨key, w⟩ := f
    rw [insert]
    split
    · rename_i same
      obtain rfl : key = k := by simpa using same
      simp [keys]
    · simp only [keys, List.map_cons, List.mem_cons] at ih ⊢
      rw [ih, or_left_comm]

theorem mem_insert {f : String × Json} {k : String} {v : Json} {fs : Fields}
    (h : f ∈ insert k v fs) : f = (k, v) ∨ f ∈ fs := by
  induction fs with
  | nil => exact .inl (List.mem_singleton.1 h)
  | cons g fs ih =>
    obtain ⟨key, w⟩ := g
    rw [insert] at h
    split at h
    · rename_i same
      obtain rfl : key = k := by simpa using same
      exact (List.mem_cons.1 h).imp_right (List.mem_cons_of_mem _)
    · rcases List.mem_cons.1 h with rfl | h
      · exact .inr (by simp)
      · exact (ih h).imp_right (List.mem_cons_of_mem _)

/-- Fields written one after another were there at the start or are among what is written. -/
theorem mem_foldl_insert {f : String × Json} {gs fs : Fields}
    (h : f ∈ gs.foldl (fun fs g => insert g.1 g.2 fs) fs) : f ∈ fs ∨ f ∈ gs := by
  induction gs generalizing fs with
  | nil => exact .inl h
  | cons g gs ih =>
    rcases ih h with h | h
    · exact (mem_insert h).elim (fun same => .inr (by simp [same])) .inl
    · exact .inr (List.mem_cons_of_mem _ h)

theorem mem_keys_foldl_insert {k : String} {gs fs : Fields} :
    k ∈ keys (gs.foldl (fun fs g => insert g.1 g.2 fs) fs) ↔ k ∈ keys fs ∨ k ∈ keys gs := by
  induction gs generalizing fs with
  | nil => simp [keys]
  | cons g gs ih =>
    rw [List.foldl_cons, ih, mem_keys_insert]
    simp only [keys, List.map_cons, List.mem_cons]
    tauto

/-- A key that is written stays where it is, or comes last. -/
theorem keys_insert (k : String) (v : Json) (fs : Fields) :
    keys (insert k v fs) = keys fs ++ if (get? fs k).isSome then [] else [k] := by
  induction fs with
  | nil => simp [insert, keys, get?]
  | cons f fs ih =>
    obtain ⟨key, w⟩ := f
    rw [insert, get?_cons]
    split
    · rename_i same
      obtain rfl : key = k := by simpa using same
      simp [keys]
    · rename_i other
      have ne : k ≠ key := fun same => other (by simp [same])
      rw [if_neg ne]
      simpa [keys] using ih

theorem nodup_keys_insert {fs : Fields} (h : (keys fs).Nodup) (k : String) (v : Json) :
    (keys (insert k v fs)).Nodup := by
  induction fs with
  | nil => simp [insert, keys]
  | cons f fs ih =>
    obtain ⟨key, w⟩ := f
    obtain ⟨fresh, rest⟩ := List.nodup_cons.1 h
    rw [insert]
    split
    · rename_i same
      obtain rfl : key = k := by simpa using same
      exact List.nodup_cons.2 ⟨fresh, rest⟩
    · rename_i other
      refine List.nodup_cons.2 ⟨fun hit => ?_, ih rest⟩
      rcases mem_keys_insert.1 hit with same | hit
      · exact other (by simpa using same)
      · exact fresh hit

theorem get?_filter {fs : Fields} {k l : String} (other : l ≠ k) :
    get? (fs.filter (·.1 != k)) l = get? fs l := by
  induction fs with
  | nil => rfl
  | cons f fs ih =>
    obtain ⟨key, v⟩ := f
    by_cases same : key = k
    · have skipped : l ≠ key := fun same' => other (same'.trans same)
      rw [List.filter_cons_of_neg (by simp [same]), get?_cons, if_neg skipped, ih]
    · rw [List.filter_cons_of_pos (by simpa using same), get?_cons, get?_cons, ih]

/-- To write a key leaves the other fields alone. -/
theorem filter_insert (k : String) (v : Json) (fs : Fields) :
    (insert k v fs).filter (·.1 != k) = fs.filter (·.1 != k) := by
  induction fs with
  | nil => simp [insert]
  | cons f fs ih =>
    obtain ⟨key, w⟩ := f
    by_cases same : key = k
    · simp [insert, same]
    · simp [insert, same, ih]

/-- To write what is there changes nothing. -/
theorem insert_of_get? {fs : Fields} {k : String} {v : Json} (h : get? fs k = some v) :
    insert k v fs = fs := by
  induction fs with
  | nil => simp [get?] at h
  | cons f fs ih =>
    obtain ⟨key, w⟩ := f
    rw [get?_cons] at h
    rw [insert]
    split
    · rename_i same
      obtain rfl : key = k := by simpa using same
      rw [if_pos rfl] at h
      rw [Option.some.inj h]
    · rename_i other
      have ne : k ≠ key := fun same => other (by simp [same])
      rw [if_neg ne] at h
      rw [ih h]

/-- What stands under a key is paired with it. -/
theorem mem_of_get? {fs : Fields} {k : String} {v : Json} (h : get? fs k = some v) : (k, v) ∈ fs := by
  induction fs with
  | nil => simp [get?] at h
  | cons f fs ih =>
    obtain ⟨key, w⟩ := f
    rw [get?_cons] at h
    split at h
    · rename_i same
      obtain rfl := Option.some.inj h
      simp [same]
    · exact List.mem_cons_of_mem _ (ih h)

/-- Without repeated keys, what stands under a key is what is paired with it. -/
theorem get?_eq_some_iff {fs : Fields} (h : (keys fs).Nodup) {k : String} {v : Json} :
    get? fs k = some v ↔ (k, v) ∈ fs := by
  induction fs with
  | nil => simp [get?]
  | cons f fs ih =>
    obtain ⟨key, w⟩ := f
    obtain ⟨fresh, rest⟩ := List.nodup_cons.1 h
    rw [get?_cons, List.mem_cons]
    split
    · rename_i same
      subst same
      have absent : (k, v) ∉ fs := fun hit => fresh (List.mem_map.2 ⟨_, hit, rfl⟩)
      simp [absent, eq_comm]
    · rename_i other
      simp [other, ih rest]

/-- Objects with the same fields have the same values under their keys. -/
theorem get?_eq_of_perm {fs gs : Fields} (p : fs.Perm gs) (h : (keys fs).Nodup) (k : String) :
    get? fs k = get? gs k := by
  have h' : (keys gs).Nodup := (p.map _).nodup_iff.1 h
  refine Option.ext fun v => ?_
  rw [get?_eq_some_iff h, get?_eq_some_iff h', p.mem_iff]

/-- Removing a key leaves the other fields, in some order. -/
theorem erase_perm {fs : Fields} (h : (keys fs).Nodup) (k : String) :
    (erase k fs).Perm (fs.filter fun f => f.1 ≠ k) := by
  induction fs with
  | nil => exact .nil
  | cons f fs ih =>
    obtain ⟨key, w⟩ := f
    obtain ⟨fresh, rest⟩ := List.nodup_cons.1 h
    rw [erase]
    split
    · rename_i same
      obtain rfl : key = k := by simpa using same
      have others : fs.filter (fun f => f.1 ≠ key) = fs := by
        refine List.filter_eq_self.2 fun f hf => ?_
        have ne : f.1 ≠ key := fun same => fresh (List.mem_map.2 ⟨f, hf, same⟩)
        simpa using ne
      rw [List.filter_cons_of_neg (by simp), others]
      split
      · rename_i last hl
        obtain ⟨front, rfl⟩ := List.getLast?_eq_some_iff.1 hl
        simpa using (List.perm_append_singleton last front).symm
      · rename_i none
        rw [List.getLast?_eq_none_iff.1 none]
    · rename_i other
      rw [List.filter_cons_of_pos (by simpa using other)]
      exact (ih rest).cons _

/-- Removing a key leaves the other keys, repeated or not. -/
theorem mem_keys_erase_of_ne {fs : Fields} {k l : String} (other : l ≠ k) :
    l ∈ keys (erase k fs) ↔ l ∈ keys fs := by
  induction fs with
  | nil => rfl
  | cons f fs ih =>
    obtain ⟨key, w⟩ := f
    rw [erase]
    split
    · rename_i same
      obtain rfl : key = k := by simpa using same
      split
      · rename_i last hl
        obtain ⟨front, rfl⟩ := List.getLast?_eq_some_iff.1 hl
        simp [keys, other, or_comm]
      · rename_i none
        simp [keys, List.getLast?_eq_none_iff.1 none, other]
    · simp only [keys, List.map_cons, List.mem_cons] at ih ⊢
      rw [ih]

theorem mem_keys_of_erase {fs : Fields} {k l : String} (h : l ∈ keys (erase k fs)) :
    l ∈ keys fs := by
  by_cases same : l = k
  · subst same
    by_contra absent
    have untouched : erase l fs = fs := by
      clear h
      induction fs with
      | nil => rfl
      | cons f fs ih =>
        obtain ⟨other, absent⟩ : l ≠ f.1 ∧ l ∉ keys fs := by simpa [keys] using absent
        rw [erase, if_neg (by simpa using other.symm), ih absent]
    exact absent (untouched ▸ h)
  · exact (mem_keys_erase_of_ne same).1 h

theorem nodup_keys_erase {fs : Fields} (h : (keys fs).Nodup) (k : String) :
    (keys (erase k fs)).Nodup :=
  ((erase_perm h k).map _).nodup_iff.2 (h.sublist (List.filter_sublist.map _))

theorem get?_erase_self {fs : Fields} (h : (keys fs).Nodup) (k : String) :
    get? (erase k fs) k = none := by
  rw [get?_eq_of_perm (erase_perm h k) (nodup_keys_erase h k), Option.eq_none_iff_forall_ne_some]
  intro v here
  have h' : (keys (fs.filter fun f => f.1 ≠ k)).Nodup := h.sublist (List.filter_sublist.map _)
  rw [get?_eq_some_iff h', List.mem_filter] at here
  simp at here

theorem get?_erase_of_ne {fs : Fields} (h : (keys fs).Nodup) {k l : String} (other : l ≠ k) :
    get? (erase k fs) l = get? fs l := by
  rw [get?_eq_of_perm (erase_perm h k) (nodup_keys_erase h k)]
  refine Option.ext fun v => ?_
  have h' : (keys (fs.filter fun f => f.1 ≠ k)).Nodup := h.sublist (List.filter_sublist.map _)
  rw [get?_eq_some_iff h', get?_eq_some_iff h, List.mem_filter]
  simp [other]

end DocStore.Fields
