import DocStore.Filter.Operator
import DocStore.Proofs.Fallible
import DocStore.Schema.Basic
import Mathlib.Data.List.Nodup

/-!
# Schemas that a registry took

A schema is put together field by field, and a registry takes it if it is sound in itself
(`Schema.Registered`). Such a schema declares each field once, under a proper name, and every
default can be brought into the form of its field.
-/

namespace DocStore.Schema

/-- A schema that was put together field by field. -/
inductive Built : Schema → Prop where
  | empty (name : String) : Built ⟨name, []⟩
  | define {s : Schema} (built : Built s) (name : String) (d : FieldDef) : Built (s.define name d)

/-- A schema that some registry took. -/
structure Registered (s : Schema) : Prop where
  built : s.Built
  taken : ∃ r r' : Registry, r.register s = .ok r'

theorem mem_names_defineIn {name other : String} {d : FieldDef} {fs : List (String × FieldDef)} :
    other ∈ (defineIn name d fs).map (·.1) ↔ other = name ∨ other ∈ fs.map (·.1) := by
  induction fs with
  | nil => simp [defineIn]
  | cons f fs ih =>
    obtain ⟨n, e⟩ := f
    rw [defineIn]
    split
    · rename_i same
      obtain rfl : n = name := by simpa using same
      simp
    · simp only [List.map_cons, List.mem_cons] at ih ⊢
      rw [ih, or_left_comm]

theorem nodup_names_defineIn {fs : List (String × FieldDef)} (distinct : (fs.map (·.1)).Nodup)
    (name : String) (d : FieldDef) : ((defineIn name d fs).map (·.1)).Nodup := by
  induction fs with
  | nil => simp [defineIn]
  | cons f fs ih =>
    obtain ⟨n, e⟩ := f
    obtain ⟨fresh, rest⟩ := List.nodup_cons.1 distinct
    rw [defineIn]
    split
    · exact List.nodup_cons.2 ⟨fresh, rest⟩
    · rename_i other
      refine List.nodup_cons.2 ⟨fun hit => ?_, ih rest⟩
      rcases mem_names_defineIn.1 hit with same | hit
      · exact other (by simpa using same)
      · exact fresh hit

/-- No field is declared twice. -/
theorem Built.distinct {s : Schema} (built : s.Built) : (s.fields.map (·.1)).Nodup := by
  induction built with
  | empty name => exact .nil
  | define _ name d ih => exact nodup_names_defineIn ih name d

theorem Built.field?_eq_some_iff {s : Schema} (built : s.Built) {name : String} {d : FieldDef} :
    s.field? name = some d ↔ (name, d) ∈ s.fields := by
  have distinct := built.distinct
  unfold field?
  generalize s.fields = fs at distinct
  induction fs with
  | nil => simp
  | cons f fs ih =>
    obtain ⟨n, e⟩ := f
    obtain ⟨fresh, rest⟩ := List.nodup_cons.1 distinct
    rw [List.lookup_cons, List.mem_cons]
    by_cases same : name = n
    · subst same
      have absent : (name, d) ∉ fs := fun hit => fresh (List.mem_map.2 ⟨_, hit, rfl⟩)
      simp [absent, eq_comm]
    · have differ : (name == n) = false := beq_false_of_ne same
      simp [same, differ, ih rest]

namespace Registered

variable {s : Schema} (h : s.Registered) {name : String} {d : FieldDef}
include h

theorem checkField (mem : (name, d) ∈ s.fields) : s.checkField name d = .ok () := by
  obtain ⟨r, r', taken⟩ := h.taken
  obtain ⟨_, sound, -⟩ := Fallible.bind_eq_ok.1 taken
  unfold checkStructure at sound
  split at sound
  · cases sound
  · exact Fallible.forM_eq_ok.1 sound _ mem

/-- A declared field can be named by a predicate. -/
theorem isFieldName (mem : (name, d) ∈ s.fields) : Predicate.isFieldName name = true := by
  have checked := h.checkField mem
  unfold Schema.checkField at checked
  split at checked
  · cases checked
  · rename_i proper
    simpa [Predicate.isFieldName] using proper

/-- A default can be brought into the form of its field. -/
theorem exists_validate_default (mem : (name, d) ∈ s.fields) {v : Json}
    (default : d.default = some v) : ∃ w, d.type.validate name v = .ok w := by
  have checked := h.checkField mem
  unfold Schema.checkField at checked
  split at checked
  · cases checked
  · rw [default] at checked
    obtain ⟨w, hw, -⟩ := Fallible.map_eq_ok.1 checked
    exact ⟨w, hw⟩

end Registered

end DocStore.Schema
