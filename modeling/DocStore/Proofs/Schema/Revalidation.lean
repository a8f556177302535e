import DocStore.Filter.Query
import DocStore.Proofs.Schema.Conformance
import DocStore.Proofs.Schema.NormalForm

/-!
# Documents that pass validation again

A value that came out of a coercion comes out of it again as it is, if its timestamps are of the
years 0 to 9999. So a document that is read back passes validation again unchanged exactly if each of
its declared fields rests (`FieldDef.Rests`), and what stands under a field that rests can be compared
with the field as it is (`Schema.revalidates_iff`).
-/

namespace DocStore

open Fallible (bind_eq_ok)

theorem Kind.coerce_again_iff {k : Kind} {field : String} {v w : Json}
    (h : k.coerce field v = .ok w) : k.coerce field w = .ok w ↔ k.WithinYears w := by
  rw [← (coerce_eq_ok.1 h).fixed_iff, fixed_iff, coerce_eq_ok]

namespace FieldDef

/-- What stands under a declared field of a new document, after what was given there, is in the form
that validation wants: its timestamps are of the years 0 to 9999, and a default that was used fits. -/
structure Rests (name : String) (d : FieldDef) (given out : Option Json) : Prop where
  years : ∀ w, out = some w → d.type.kind.WithinYears w
  default : given = none → d.DefaultFits name

variable {name : String} {d : FieldDef} {given out : Option Json}

theorem settles_self_iff {v : Json} (present : v ≠ .null) :
    d.Settles name (some v) (some v) ↔ d.type.validate name v = .ok v := by
  constructor
  · intro h
    cases h with
    | null => exact absurd rfl present
    | given _ valid => exact valid
  · exact .given present

/-- A value that came out of validation passes it again, if it rests. -/
theorem validate_again_iff {v w : Json} (h : d.type.validate name v = .ok w) :
    d.type.validate name w = .ok w ↔ d.type.kind.WithinYears w := by
  obtain ⟨coerces, checked⟩ := FieldType.validate_eq_ok.1 h
  rw [FieldType.validate_eq_ok, ← Kind.fixed_iff, coerces.fixed_iff]
  exact and_iff_left checked

/-- A default fits if it is settled as it is. -/
theorem settles_default_iff {v : Json} (declared : d.default = some v)
    (registered : ∃ w, d.type.validate name v = .ok w) :
    d.Settles name (some v) (some v) ↔ d.DefaultFits name := by
  have fits : d.DefaultFits name ↔
      d.type.validate name v = .ok v ∧ (d.required = true → v ≠ .null) := by
    simp [DefaultFits, declared]
  rw [fits]
  by_cases null : v = .null
  · -- Here validation is not asked: the default is settled if the field is optional.
    subst null
    obtain ⟨w, valid⟩ := registered
    obtain rfl := (FieldType.validate_eq_ok.1 valid).1.eq_null_iff.2 rfl
    constructor
    · intro h
      cases h with
      | null optional => exact ⟨valid, fun required => by simp [optional] at required⟩
      | given present => exact absurd rfl present
    · rintro ⟨-, required⟩
      exact .null (Bool.eq_false_iff.2 fun h => required h rfl)
  · rw [settles_self_iff null]
    exact (and_iff_left fun _ => null).symm

/-- **What a field settled to is settled again as it is, if it rests.** -/
theorem Settles.again_iff (h : Settles name d given out)
    (registered : ∀ v, d.default = some v → ∃ w, d.type.validate name v = .ok w) :
    Settles name d out out ↔ Rests name d given out := by
  cases h with
  | null optional =>
    refine iff_of_true (.null optional) ⟨?_, nofun⟩
    rintro _ same
    cases same
    exact Kind.withinYears_null _
  | @given v w present valid =>
    have present' : w ≠ .null := mt (FieldType.validate_eq_ok.1 valid).1.eq_null_iff.1 present
    rw [settles_self_iff present', validate_again_iff valid]
    constructor
    · intro years
      refine ⟨?_, nofun⟩
      rintro _ same
      cases same
      exact years
    · exact fun rests => rests.years w rfl
  | @default v declared =>
    rw [settles_default_iff declared (registered v declared)]
    refine ⟨fun fits => ⟨?_, fun _ => fits⟩, fun rests => rests.default rfl⟩
    rintro _ same
    cases same
    obtain ⟨valid, -⟩ := fits v declared
    exact (validate_again_iff valid).1 valid
  | absent undeclared optional =>
    refine iff_of_true (.absent undeclared optional) ⟨nofun, fun _ v declared => ?_⟩
    rw [undeclared] at declared
    cases declared

end FieldDef

namespace Schema

theorem validateField_self {stored : Fields} {name : String} {d : FieldDef}
    (h : d.Settles name (stored.get? name) (stored.get? name)) :
    validateField stored stored name d = .ok stored := by
  unfold validateField
  generalize found : stored.get? name = there at h
  cases h with
  | null optional => simp [optional]
  | given present valid =>
    split
    · rename_i null
      cases null
      exact absurd rfl present
    · rename_i same
      cases same
      rw [valid]
      exact congrArg Except.ok (Fields.insert_of_get? found)
    · contradiction
  | absent undeclared optional => simp [undeclared, optional]

/-- A document passes validation unchanged if each declared field is settled as it is. -/
theorem validateDocument_self_iff {s : Schema} (built : s.Built) (stored : Fields) :
    s.validateDocument (.obj stored) = .ok (.obj stored) ↔
      ∀ f ∈ s.fields, f.2.Settles f.1 (stored.get? f.1) (stored.get? f.1) := by
  constructor
  · intro h
    obtain ⟨given, gs, same, same', settled, -⟩ := settles_validateDocument built h
    cases same
    cases same'
    exact settled
  · intro h
    have folded : s.fields.foldlM (fun out f => validateField stored out f.1 f.2) stored =
        .ok stored := by
      generalize s.fields = fs at h
      -- No step changes the document that the steps before it have left.
      induction fs with
      | nil => rfl
      | cons f fs ih =>
        obtain ⟨here, there⟩ := List.forall_mem_cons.1 h
        rw [List.foldlM_cons, validateField_self here]
        exact ih there
    exact bind_eq_ok.2 ⟨stored, folded, rfl⟩

end Schema

namespace Predicate

/-- What is settled under a declared field as it is can be an operand for the field, with any
operator, unless it would be read as one. -/
theorem coerceOperand_self {types : FieldLookup} {field : String} {d : FieldDef} {w : Json}
    (declared : types field = some d.type) (settled : d.Settles field (some w) (some w))
    (op : Operator) :
    coerceOperand types field op w = (checkPlain field w).map fun _ => w := by
  unfold coerceOperand
  cases checkPlain field w with
  | error e => rfl
  | ok =>
    change _ = Except.ok w
    refine bind_eq_ok.2 ⟨(), rfl, ?_⟩
    simp only [declared]
    by_cases null : w = .null
    · subst null
      rfl
    · have valid := (FieldDef.settles_self_iff null).1 settled
      obtain ⟨coerces, checked⟩ := FieldType.validate_eq_ok.1 valid
      have coerced : d.type.kind.coerce field w = .ok w := Kind.coerce_eq_ok.2 coerces
      have notNull : w.isNull = false := by cases w <;> simp_all [Json.isNull]
      simp only [notNull]
      split
      · contradiction
      · split
        · rename_i kind
          rw [← kind, coerced]
        · rename_i kind noList
          rw [kind] at coerces
          obtain ⟨xs, _, rfl, -⟩ := coerces
          exact absurd rfl (noList xs)
        · refine bind_eq_ok.2 ⟨_, coerced, ?_⟩
          split
          · exact bind_eq_ok.2 ⟨(), checked, rfl⟩
          · rfl

end Predicate

namespace Schema

/-- **Coercion gives normal forms where timestamps can be read back.** A value that came out of a
coercion comes out of it again as it is, if and only if its timestamps are of the years 0 to 9999. A
document that agrees with a validated one in the declared fields passes validation unchanged, if and
only if each of these fields rests; and what stands under a field that rests is, with any operator,
an operand for the field, unless it would be read as an operator. -/
theorem revalidates_iff (s : Schema) (given out stored : Fields) :
    (∀ (k : Kind) (field : String) (v w : Json), k.coerce field v = .ok w →
      (k.coerce field w = .ok w ↔ k.WithinYears w)) ∧
    (s.Registered → s.validateDocument (.obj given) = .ok (.obj out) →
      (∀ f ∈ s.fields, stored.get? f.1 = out.get? f.1) →
      (s.validateDocument (.obj stored) = .ok (.obj stored) ↔
        ∀ f ∈ s.fields, f.2.Rests f.1 (given.get? f.1) (out.get? f.1)) ∧
      ∀ f ∈ s.fields, f.2.Rests f.1 (given.get? f.1) (out.get? f.1) →
        ∀ w, out.get? f.1 = some w → ∀ op,
          Predicate.coerceOperand (.ofSchema? (some s)) f.1 op w =
            (Predicate.checkPlain f.1 w).map fun _ => w) := by
  refine ⟨fun k field v w => Kind.coerce_again_iff, fun registered accepted agrees => ?_⟩
  obtain ⟨_, _, same, same', settled, -⟩ := settles_validateDocument registered.built accepted
  cases same
  cases same'
  have again (f : String × FieldDef) (hf : f ∈ s.fields) :
      f.2.Settles f.1 (out.get? f.1) (out.get? f.1) ↔
        f.2.Rests f.1 (given.get? f.1) (out.get? f.1) :=
    (settled f hf).again_iff fun v => registered.exists_validate_default hf
  constructor
  · rw [validateDocument_self_iff registered.built]
    refine forall₂_congr fun f hf => ?_
    rw [agrees f hf]
    exact again f hf
  · intro f hf rests w there op
    have declared : FieldLookup.ofSchema? (some s) f.1 = some f.2.type := by
      simp [FieldLookup.ofSchema?, registered.built.field?_eq_some_iff.2 hf]
    exact Predicate.coerceOperand_self declared (there ▸ (again f hf).2 rests) op

/-- An afternoon in another time zone, in a list; the document has been given an identifier. -/
theorem revalidates_list :
    let s := (Schema.mk "c" []).define "at" (.mandatory ⟨"list", .array .datetime, {}⟩)
    let given : Fields := [("at", .arr [.str "2024-03-01T12:30:00.5+02:00"])]
    let stored : Fields := [("at", .arr [.str "2024-03-01T10:30:00.500Z"]), ("_id", .int 1)]
    s.validateDocument (.obj given) = .ok (.obj (stored.take 1)) ∧
      s.validateDocument (.obj stored) = .ok (.obj stored) := by
  intro s given stored
  have registered : s.Registered := ⟨.define (.empty _) _ _, {}, ⟨[s]⟩, by rfl⟩
  have accepted : s.validateDocument (.obj given) = .ok (.obj (stored.take 1)) := by rfl
  have agrees : ∀ f ∈ s.fields, stored.get? f.1 = Fields.get? (stored.take 1) f.1 := by
    intro f hf
    obtain rfl := List.mem_singleton.1 hf
    rfl
  refine ⟨accepted, ((revalidates_iff s given _ stored).2 registered accepted agrees).1.2 ?_⟩
  intro f hf
  obtain rfl := List.mem_singleton.1 hf
  refine ⟨?_, nofun⟩
  rintro _ same
  cases same
  have fixed : (Kind.array .datetime).coerce "at" (.arr [.str "2024-03-01T10:30:00.500Z"]) =
      .ok (.arr [.str "2024-03-01T10:30:00.500Z"]) := by rfl
  exact (Kind.coerce_again_iff fixed).1 fixed

/-- The last second of the year 9999 in a time zone that is behind is of the year 10000 in UTC. It is
written with a sign, and not read back. -/
theorem not_coerce_again :
    let late : Json := .str "+10000-01-01T00:59:59.000Z"
    Kind.datetime.coerce "at" (.str "9999-12-31T23:59:59-01:00") = .ok late ∧
      Kind.datetime.coerce "at" late = .error (.validation "at" (.kind .datetime) (.value late)) := by
  exact ⟨by rfl, by rfl⟩

end Schema

end DocStore
