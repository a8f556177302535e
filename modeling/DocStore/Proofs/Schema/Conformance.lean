import DocStore.Proofs.Schema.Forms
import DocStore.Proofs.Schema.Registered
import DocStore.Schema.Validation

/-!
# New documents conform to their schema

A document that passes validation is settled field by field (`FieldDef.Settles`): a value that is
given is coerced and checked, a default is written as it is declared. So a declared field conforms
to its definition (`FieldDef.Conforms`) unless the default was used and is not in the form of the
field (`Schema.conforms_validateDocument`).
-/

namespace DocStore

open Fallible (bind_eq_ok)

theorem FieldType.validate_eq_ok {t : FieldType} {field : String} {v w : Json} :
    t.validate field v = .ok w ↔ t.kind.Coerces v w ∧ t.check field w = .ok () := by
  unfold validate
  rw [bind_eq_ok]
  constructor
  · rintro ⟨u, hu, rest⟩
    obtain ⟨_, checked, last⟩ := bind_eq_ok.1 rest
    cases last
    exact ⟨Kind.coerce_eq_ok.1 hu, checked⟩
  · rintro ⟨hw, checked⟩
    exact ⟨w, Kind.coerce_eq_ok.2 hw, bind_eq_ok.2 ⟨(), checked, rfl⟩⟩

namespace FieldDef

/-- What stands under a declared field of a new document, after what was given there. -/
inductive Settles (name : String) (d : FieldDef) : Option Json → Option Json → Prop where
  | null (optional : d.required = false) : Settles name d (some .null) (some .null)
  | given {v w : Json} (present : v ≠ .null) (valid : d.type.validate name v = .ok w) :
    Settles name d (some v) (some w)
  | default {v : Json} (declared : d.default = some v) : Settles name d none (some v)
  | absent (undeclared : d.default = none) (optional : d.required = false) : Settles name d none none

/-- A declared field of a new document is as its definition wants it: what is there came out of the
validation of the value given, or else of the default, unless it is null; it is there if it is
required, and if it has a default. -/
structure Conforms (name : String) (d : FieldDef) (given out : Option Json) : Prop where
  produced : ∀ w, out = some w → w ≠ .null → d.type.kind.Form w ∧ d.type.check name w = .ok () ∧
    ∃ v, given.or d.default = some v ∧ d.type.validate name v = .ok w
  present : d.required = true → ∃ w, out = some w ∧ w ≠ .null
  filled : given = none → d.default.isSome → out.isSome

/-- The default of a field is what validation makes of it, and not null if the field is
required. -/
def DefaultFits (name : String) (d : FieldDef) : Prop :=
  ∀ v, d.default = some v → d.type.validate name v = .ok v ∧ (d.required = true → v ≠ .null)

variable {name : String} {d : FieldDef} {given out : Option Json}

/-- **A settled field conforms**, unless the default was used and does not fit. -/
theorem Settles.conforms_iff (h : Settles name d given out)
    (registered : ∀ v, d.default = some v → ∃ w, d.type.validate name v = .ok w) :
    Conforms name d given out ↔ (given = none → DefaultFits name d) := by
  constructor
  · rintro conforms rfl v declared
    cases h with
    | default declared' =>
      obtain rfl := Option.some.inj (declared.symm.trans declared')
      refine ⟨?_, fun required => ?_⟩
      · by_cases null : v = .null
        · subst null
          obtain ⟨w, valid⟩ := registered _ declared
          obtain rfl := (FieldType.validate_eq_ok.1 valid).1.eq_null_iff.2 rfl
          exact valid
        · obtain ⟨-, -, u, source, valid⟩ := conforms.produced v rfl null
          rw [Option.none_or, declared] at source
          cases source
          exact valid
      · obtain ⟨w, same, present⟩ := conforms.present required
        cases same
        exact present
    | absent undeclared => exact absurd (declared.symm.trans undeclared) (by simp)
  · intro fits
    cases h with
    | null optional =>
      refine ⟨?_, by simp [optional], by simp⟩
      rintro w same present
      cases same
      exact absurd rfl present
    | @given v w present valid =>
      obtain ⟨coerces, checked⟩ := FieldType.validate_eq_ok.1 valid
      refine ⟨?_, fun _ => ⟨w, rfl, mt coerces.eq_null_iff.1 present⟩, by simp⟩
      rintro _ same -
      cases same
      exact ⟨coerces.form, checked, v, rfl, valid⟩
    | @default v declared =>
      obtain ⟨valid, present⟩ := fits rfl v declared
      obtain ⟨coerces, checked⟩ := FieldType.validate_eq_ok.1 valid
      refine ⟨?_, fun required => ⟨v, rfl, present required⟩, by simp⟩
      rintro _ same -
      cases same
      exact ⟨coerces.form, checked, v, declared, valid⟩
    | absent undeclared optional => exact ⟨by simp, by simp [optional], by simp [undeclared]⟩

end FieldDef

namespace Schema

/-- The fields of a list of declarations that are filled in with their defaults. -/
def filledIn (given : Fields) (ds : List (String × FieldDef)) : List String :=
  (ds.filter fun f => (given.get? f.1).isNone && f.2.default.isSome).map (·.1)

section

variable {given out out' : Fields} {name : String} {d : FieldDef}

/-- Validation of a field leaves it as it is, or writes what it settles to. -/
theorem validateField_cases (h : validateField given out name d = .ok out') :
    out' = out ∧ d.Settles name (given.get? name) (given.get? name) ∧ filledIn given [(name, d)] = [] ∨
      ∃ w, out' = out.insert name w ∧ d.Settles name (given.get? name) (some w) ∧
        filledIn given [(name, d)] = if (given.get? name).isSome then [] else [name] := by
  unfold validateField at h
  split at h
  · rename_i null
    rw [null]
    split at h
    · cases h
    · rename_i optional
      cases h
      exact .inl ⟨rfl, .null (by simpa using optional), by simp [filledIn, null]⟩
  · rename_i v here present
    obtain ⟨w, valid, last⟩ := bind_eq_ok.1 h
    cases last
    rw [present]
    exact .inr ⟨w, rfl, .given (fun null => here null) valid, by simp [filledIn, present]⟩
  · rename_i none
    rw [none]
    split at h
    · rename_i v declared
      cases h
      exact .inr ⟨v, rfl, .default declared, by simp [filledIn, none, declared]⟩
    · rename_i undeclared
      split at h
      · cases h
      · rename_i optional
        cases h
        exact .inl ⟨rfl, .absent undeclared (by simpa using optional), by simp [filledIn, undeclared]⟩

theorem get?_validateField (h : validateField given out name d = .ok out')
    (same : out.get? name = given.get? name) : d.Settles name (given.get? name) (out'.get? name) := by
  obtain ⟨rfl, settles, -⟩ | ⟨w, rfl, settles, -⟩ := validateField_cases h
  · rw [same]
    exact settles
  · rw [Fields.get?_insert_self]
    exact settles

theorem get?_validateField_of_ne (h : validateField given out name d = .ok out') {other : String}
    (ne : other ≠ name) : out'.get? other = out.get? other := by
  obtain ⟨rfl, -⟩ | ⟨w, rfl, -⟩ := validateField_cases h
  · rfl
  · exact Fields.get?_insert_of_ne ne w out

theorem keys_validateField (h : validateField given out name d = .ok out')
    (same : out.get? name = given.get? name) :
    Fields.keys out' = Fields.keys out ++ filledIn given [(name, d)] := by
  obtain ⟨rfl, -, added⟩ | ⟨w, rfl, -, added⟩ := validateField_cases h
  · rw [added, List.append_nil]
  · rw [added, Fields.keys_insert, same]

/-- **Validation settles every declared field once**, touches no other, and adds keys at the end
only, those of the fields that are filled in. -/
theorem foldlM_validateField {ds : List (String × FieldDef)} (distinct : (ds.map (·.1)).Nodup)
    (untouched : ∀ f ∈ ds, out.get? f.1 = given.get? f.1)
    (h : ds.foldlM (fun out f => validateField given out f.1 f.2) out = .ok out') :
    (∀ f ∈ ds, f.2.Settles f.1 (given.get? f.1) (out'.get? f.1)) ∧
      (∀ other, other ∉ ds.map (·.1) → out'.get? other = out.get? other) ∧
      Fields.keys out' = Fields.keys out ++ filledIn given ds := by
  induction ds generalizing out with
  | nil =>
    cases h
    simp [filledIn]
  | cons f ds ih =>
    obtain ⟨name, d⟩ := f
    obtain ⟨fresh, rest⟩ := List.nodup_cons.1 distinct
    obtain ⟨same, later⟩ := List.forall_mem_cons.1 untouched
    rw [List.foldlM_cons] at h
    obtain ⟨next, step, h⟩ := bind_eq_ok.1 h
    have apart : ∀ f ∈ ds, f.1 ≠ name := fun f hf equal => fresh (List.mem_map.2 ⟨f, hf, equal⟩)
    obtain ⟨settled, others, keys⟩ := ih rest
      (fun f hf => (get?_validateField_of_ne step (apart f hf)).trans (later f hf)) h
    refine ⟨List.forall_mem_cons.2 ⟨?_, settled⟩, fun other away => ?_, ?_⟩
    · rw [others name fresh]
      exact get?_validateField step same
    · obtain ⟨ne, away⟩ := not_or.1 (mt List.mem_cons.2 away)
      rw [others other away, get?_validateField_of_ne step ne]
    · rw [keys, keys_validateField step same, List.append_assoc, filledIn, filledIn, filledIn,
        ← List.map_append, ← List.filter_append, List.singleton_append]

end

variable {s : Schema}

/-- What validation makes of a new document. -/
theorem settles_validateDocument (built : s.Built) {document out : Json}
    (accepted : s.validateDocument document = .ok out) :
    ∃ given gs : Fields, document = .obj given ∧ out = .obj gs ∧
      (∀ f ∈ s.fields, f.2.Settles f.1 (given.get? f.1) (gs.get? f.1)) ∧
      (∀ name, s.field? name = none → gs.get? name = given.get? name) ∧
      Fields.keys gs = Fields.keys given ++ filledIn given s.fields := by
  unfold validateDocument at accepted
  split at accepted
  · rename_i given
    obtain ⟨gs, folded, last⟩ := bind_eq_ok.1 accepted
    cases last
    obtain ⟨settled, others, keys⟩ := foldlM_validateField built.distinct (fun _ _ => rfl) folded
    refine ⟨given, gs, rfl, rfl, settled, fun name undeclared => others name fun mem => ?_, keys⟩
    obtain ⟨⟨_, d⟩, hd, rfl⟩ := List.mem_map.1 mem
    rw [built.field?_eq_some_iff.2 hd] at undeclared
    cases undeclared
  · cases accepted

/-- **New documents conform to their schema, unless a default is not in the form of its field.** In
a document that a registered schema has accepted, each declared field conforms to its definition,
except one that was filled in with a default that does not fit: the default is written as it was
declared. All other fields are kept, and the keys are those given, in place, and then those filled
in. -/
theorem conforms_validateDocument (registered : s.Registered) {document out : Json}
    (accepted : s.validateDocument document = .ok out) :
    ∃ given gs : Fields, document = .obj given ∧ out = .obj gs ∧
      (∀ name d, s.field? name = some d →
        (d.Conforms name (given.get? name) (gs.get? name) ↔
          (given.get? name = none → d.DefaultFits name))) ∧
      (∀ name d v, s.field? name = some d → given.get? name = none → d.default = some v →
        gs.get? name = some v) ∧
      (∀ name, s.field? name = none → gs.get? name = given.get? name) ∧
      Fields.keys gs = Fields.keys given ++ filledIn given s.fields := by
  obtain ⟨given, gs, rfl, rfl, settled, others, keys⟩ :=
    settles_validateDocument registered.built accepted
  have declared {name : String} {d : FieldDef} (h : s.field? name = some d) :
      (name, d) ∈ s.fields := registered.built.field?_eq_some_iff.1 h
  refine ⟨given, gs, rfl, rfl, fun name d hd => ?_, fun name d v hd none default => ?_, others, keys⟩
  · exact (settled _ (declared hd)).conforms_iff fun v =>
      registered.exists_validate_default (declared hd)
  · have settles := settled _ (declared hd)
    dsimp only at settles
    rw [none] at settles
    generalize gs.get? name = there at settles
    cases settles with
    | default same => rw [← default, same]
    | absent undeclared =>
      rw [default] at undeclared
      cases undeclared

/-- A number given as text, a default, and a field that is not declared. -/
theorem conforms_validateDocument_default :
    let s := ((Schema.mk "users" []).define "age" (.mandatory ⟨"int", .int, {}⟩)).define
      "tags" (.withDefault (FieldType.length (.array .string) none (some 3)) (.arr [.str "new"]))
    let document : Json := .obj [("nick", .str "ace"), ("age", .str " 28 ")]
    let out : Json := .obj [("nick", .str "ace"), ("age", .int 28), ("tags", .arr [.str "new"])]
    s.Registered ∧ s.validateDocument document = .ok out ∧ ∀ name d, s.field? name = some d →
      d.Conforms name (document.get? name) (out.get? name) := by
  intro s document out
  have registered : s.Registered := by
    refine ⟨.define (.define (.empty _) _ _) _ _, {}, ⟨[s]⟩, ?_⟩
    rfl
  have accepted : s.validateDocument document = .ok out := by rfl
  refine ⟨registered, accepted, fun name d declared => ?_⟩
  obtain ⟨given, gs, sameGiven, sameOut, conforms, -⟩ := conforms_validateDocument registered accepted
  obtain rfl := Json.obj.inj sameGiven
  obtain rfl := Json.obj.inj sameOut
  refine (conforms name d declared).2 fun _ v default => ?_
  have mem := registered.built.field?_eq_some_iff.1 declared
  rcases List.mem_pair.1 mem with same | same
  · cases same
    cases default
  · cases same
    cases default
    refine ⟨by rfl, by simp⟩

/-- A default that stands for an integer is written as the text that it was declared as. -/
theorem not_conforms_textDefault :
    let d : FieldDef := .withDefault ⟨"int", .int, {}⟩ (.str "5")
    let s := (Schema.mk "c" []).define "n" d
    s.Registered ∧ s.validateDocument (.obj []) = .ok (.obj [("n", .str "5")]) ∧
      ¬ d.Conforms "n" none (some (.str "5")) := by
  intro d s
  refine ⟨⟨.define (.empty _) _ _, {}, ⟨[s]⟩, by rfl⟩, by rfl, fun conforms => ?_⟩
  obtain ⟨⟨i, -, wrong⟩, -⟩ := conforms.produced _ rfl (by simp)
  cases wrong

end Schema

end DocStore
