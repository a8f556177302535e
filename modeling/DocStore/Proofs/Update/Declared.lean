import DocStore.Proofs.Binary64.Rounding
import DocStore.Proofs.Schema.Conformance
import DocStore.Proofs.Schema.NormalForm
import DocStore.Proofs.Update.Edits

/-!
# Validated updates and declared kinds

Operands are validated one by one and before the document is known, and the store works them off
without the schema. Each edit of a validated update keeps the values of declared fields in normal
form (`Schema.conforming_edit`), apart from those that the validation cannot foresee
(`Schema.Departs`): sums that leave the range of the kind, paths below a declared field, lists of
items, and timestamps that are not read back.
-/

namespace DocStore

open Fallible (bind_eq_ok)
open Update (Edit edits Writes)

/-- What may stand under a declared field: a value in normal form, and null or nothing unless the
field is required. -/
structure FieldDef.Admits (d : FieldDef) (out : Option Json) : Prop where
  present : d.required = true → ∃ v, out = some v ∧ v ≠ .null
  formed : ∀ v, out = some v → v ≠ .null → d.type.kind.Fixed v

namespace FieldDef

variable {d : FieldDef} {v : Json}

theorem admits_of_fixed (fixed : d.type.kind.Fixed v) (present : v ≠ .null) : d.Admits (some v) := by
  refine ⟨fun _ => ⟨v, rfl, present⟩, ?_⟩
  rintro _ ⟨⟩ -
  exact fixed

theorem admits_null (optional : d.required = false) : d.Admits (some .null) := by
  refine ⟨fun required => ?_, ?_⟩
  · rw [optional] at required
    cases required
  · rintro _ ⟨⟩ absent
    exact absurd rfl absent

theorem admits_none (optional : d.required = false) : d.Admits none := by
  refine ⟨fun required => ?_, fun _ none => (by cases none)⟩
  rw [optional] at required
  cases required

/-- Removing something below a value leaves what may stand under a field. -/
theorem Admits.removeSegments (h : d.Admits (some v)) (path : Path) :
    d.Admits (some (v.removeSegments path)) := by
  refine ⟨fun required => ?_, ?_⟩
  · obtain ⟨_, ⟨⟩, present⟩ := h.present required
    exact ⟨_, rfl, mt Json.removeSegments_eq_null.1 present⟩
  · rintro _ ⟨⟩ present
    exact (h.formed v rfl (mt Json.removeSegments_eq_null.2 present)).removeSegments path

/-- An object that is written below a value of the field, or in its place, may stand there. -/
theorem Admits.obj {fs : Fields} (h : d.Admits (some (.obj fs))) (gs : Fields) :
    d.Admits (some (.obj gs)) :=
  admits_of_fixed (Kind.fixed_obj (h.formed _ rfl (by simp)).kind_of_obj gs) (by simp)

end FieldDef

namespace Schema

/-- A document whose declared fields hold what they may hold. -/
inductive Conforming (s : Schema) : Json → Prop where
  | obj {fs : Fields} (distinct : (Fields.keys fs).Nodup)
      (declared : ∀ name d, s.field? name = some d → d.Admits (fs.get? name)) : Conforming s (.obj fs)

/-- The operand of an edit of a declared field came out of its validation. -/
def Validated (s : Schema) (e : Edit) : Prop :=
  ∀ d, s.field? e.field = some d → ∃ v, validateOperand e.operator e.field d v = .ok e.operand

/-- An edit takes a document out of the declared kinds. -/
inductive Departs (s : Schema) (doc : Json) : Edit → Prop where
  /-- The sum of two integers does not fit 64 bits, and becomes a double. -/
  | overflow {operator field : String} {d : FieldDef} {i j : Int} (declared : s.field? field = some d)
    (kind : d.type.kind = .int) (increments : operator = "$inc")
    (here : doc.getPath? field = some (.int i)) (large : ¬ FitsInt64 (i + j)) :
    Departs s doc ⟨operator, field, .int j⟩
  /-- The sum of two doubles is not finite, and becomes null under a required field. -/
  | infinite {operator field : String} {d : FieldDef} {x y : Binary64}
    (declared : s.field? field = some d) (kind : d.type.kind = .float) (required : d.required = true)
    (increments : operator = "$inc") (here : doc.getPath? field = some (.num (.double x)))
    (large : x.add y = none) : Departs s doc ⟨operator, field, .num (.double y)⟩
  /-- An object is made for a path below a declared field that has no value yet and is not one for
  objects. -/
  | below {operator field root segment : String} {rest : Path} {d : FieldDef} {operand : Json}
    (path : Path.ofString field = root :: segment :: rest) (declared : s.field? root = some d)
    (kind : d.type.kind ≠ .object ∧ d.type.kind ≠ .any) (missing : doc.get? root = none)
    (writes : operator ≠ "$unset") : Departs s doc ⟨operator, field, operand⟩
  /-- A list of items for an array of objects has another item. -/
  | each {operator field : String} {d : FieldDef} {operand : Json} {xs : List Json}
    (declared : s.field? field = some d) (kind : d.type.kind = .array .object)
    (pushes : operator = "$push" ∨ operator = "$addToSet")
    (listed : operand.get? "$each" = some (.arr xs)) (other : ∃ x ∈ xs, x.isObject = false) :
    Departs s doc ⟨operator, field, operand⟩
  /-- A timestamp that is written is not of the years 0 to 9999. -/
  | lateValue {operator field : String} {d : FieldDef} {operand : Json}
    (declared : s.field? field = some d) (sets : operator = "$set")
    (late : ¬ d.type.kind.WithinYears operand) : Departs s doc ⟨operator, field, operand⟩
  /-- A timestamp that is added to an array is not of the years 0 to 9999. -/
  | lateItem {operator field : String} {d : FieldDef} {element : Kind} {operand : Json}
    (declared : s.field? field = some d) (kind : d.type.kind = .array element)
    (pushes : operator = "$push" ∨ operator = "$addToSet") (late : ¬ element.WithinYears operand) :
    Departs s doc ⟨operator, field, operand⟩

/-- An edit away from the declared fields departs from nothing. -/
theorem not_departs_of_undeclared {s : Schema} {doc : Json} {e : Edit}
    (undeclared : s.field? e.field = none) (root : s.field? (Path.root e.field) = none) :
    ¬ s.Departs doc e := by
  intro departs
  cases departs with
  | below path declared =>
    rw [Path.root, path, List.headD_cons, declared] at root
    cases root
  | overflow declared | infinite declared | each declared | lateValue declared | lateItem declared =>
    rw [declared] at undeclared
    cases undeclared

/-! ## Validated operands -/

theorem validated_of_validateOperands {s : Schema} {operator : String} {fs gs : Fields}
    (h : s.validateOperands operator fs = .ok gs) :
    ∀ g ∈ gs, s.Validated ⟨operator, g.1, g.2⟩ := by
  induction fs generalizing gs with
  | nil =>
    cases h
    simp
  | cons f fs ih =>
    obtain ⟨field, v⟩ := f
    have parts : ∃ w ws, gs = (field, w) :: ws ∧ s.validateOperands operator fs = .ok ws ∧
        ∀ d, s.field? field = some d → validateOperand operator field d v = .ok w := by
      rw [validateOperands] at h
      split at h
      · rename_i undeclared
        obtain ⟨_, ⟨⟩, h⟩ := bind_eq_ok.1 h
        obtain ⟨ws, there, last⟩ := bind_eq_ok.1 h
        cases last
        exact ⟨v, ws, rfl, there, by simp [undeclared]⟩
      · rename_i d declared
        obtain ⟨w, here, h⟩ := bind_eq_ok.1 h
        obtain ⟨ws, there, last⟩ := bind_eq_ok.1 h
        cases last
        exact ⟨w, ws, rfl, there, by simpa [declared] using here⟩
    obtain ⟨w, ws, rfl, there, here⟩ := parts
    exact List.forall_mem_cons.2 ⟨fun d declared => ⟨v, here d declared⟩, ih there⟩

theorem validated_of_validateOperators {s : Schema} {fs gs : Fields}
    (h : s.validateOperators fs = .ok gs) : ∀ e ∈ edits (.obj gs), s.Validated e := by
  induction fs generalizing gs with
  | nil =>
    cases h
    simp [edits, Json.fields?]
  | cons f fs ih =>
    obtain ⟨operator, v⟩ := f
    cases v with
    | obj args =>
      rw [validateOperators] at h
      obtain ⟨checked, here, h⟩ := bind_eq_ok.1 h
      obtain ⟨others, there, last⟩ := bind_eq_ok.1 h
      cases last
      intro e he
      have split : edits (.obj ((operator, .obj checked) :: others)) =
          checked.map (fun f => ⟨operator, f.1, f.2⟩) ++ edits (.obj others) := rfl
      rw [split, List.mem_append, List.mem_map] at he
      rcases he with ⟨g, hg, rfl⟩ | he
      · exact validated_of_validateOperands here g hg
      · exact ih there e he
    | _ => cases h

/-- All edits of a validated update are validated. -/
theorem validated_of_validateUpdate {s : Schema} {update update' : Json}
    (h : s.validateUpdate update = .ok update') : ∀ e ∈ edits update', s.Validated e := by
  unfold validateUpdate at h
  split at h
  · obtain ⟨gs, checked, rfl⟩ := Fallible.map_eq_ok.1 h
    exact validated_of_validateOperators checked
  · cases h

/-! ## Values that edits write -/

section

variable {s : Schema} {doc operand value : Json} {operator field : String} {d : FieldDef}

/-- The operand of a `$set` is null under an optional field, or of the kind of the field. -/
theorem set_cases {v : Json} (h : validateOperand "$set" field d v = .ok operand) :
    operand = .null ∧ d.required = false ∨ operand ≠ .null ∧ d.type.kind.Coerces v operand := by
  rw [validateOperand] at h
  split at h
  · rename_i null
    obtain rfl : v = .null := by cases v <;> simp_all [Json.isNull]
    split at h
    · cases h
    · rename_i optional
      cases h
      exact .inl ⟨rfl, Bool.eq_false_iff.2 optional⟩
  · rename_i present
    obtain ⟨coerces, -⟩ := FieldType.validate_eq_ok.1 h
    exact .inr ⟨fun null => present (by rw [coerces.eq_null_iff.1 null]; rfl), coerces⟩

/-- Only fields of numbers are counted up. -/
theorem inc_cases {v : Json} (h : validateOperand "$inc" field d v = .ok operand) :
    (d.type.kind = .int ∨ d.type.kind = .float) ∧ d.type.kind.Coerces v operand := by
  rw [validateOperand] at h
  split at h
  · rename_i kind
    exact ⟨.inl kind, Kind.coerce_eq_ok.1 h⟩
  · rename_i kind
    exact ⟨.inr kind, Kind.coerce_eq_ok.1 h⟩
  · cases h

/-- Items are added to arrays only, and are of the kind of their elements. -/
theorem push_cases {v : Json} (pushes : operator = "$push" ∨ operator = "$addToSet")
    (h : validateOperand operator field d v = .ok operand) :
    ∃ element, d.type.kind = .array element ∧ element.Coerces v operand := by
  rcases pushes with rfl | rfl
  all_goals
    rw [validateOperand] at h
    split at h
    · rename_i element kind
      exact ⟨element, kind, Kind.coerce_eq_ok.1 h⟩
    · cases h

theorem optional_of_unset {v : Json} (h : validateOperand "$unset" field d v = .ok operand) :
    d.required = false := by
  rw [validateOperand] at h
  split at h
  · cases h
  · exact Bool.eq_false_iff.2 (by assumption)

/-- A sum of integers that does not fit 64 bits is a double. -/
theorem sum_eq_double {i j : Int} (left : FitsInt64 i) (right : FitsInt64 j)
    (large : ¬ FitsInt64 (i + j)) : ∃ x, Update.sum (.int i) (.int j) = .num (.double x) := by
  obtain ⟨x, finite⟩ := Binary64.exists_add_ofInt left right
  have inexact : (Number.int i).toBinary64.add (Number.int j).toBinary64 = some x := finite
  have first : (Number.int i).asInt64? = some i := if_pos left
  have second : (Number.int j).asInt64? = some j := if_pos right
  refine ⟨x, ?_⟩
  simp only [Update.sum, first, second, inexact, if_neg large]
  rfl

/-- What is counted up stays a number of its kind, unless it leaves the range of the kind. -/
theorem admits_sum {amount current : Number} {v : Json} (declared : s.field? field = some d)
    (valid : validateOperand "$inc" field d v = .ok (.num amount))
    (here : doc.getPath? field = some (.num current)) (old : d.type.kind.Fixed (.num current))
    (kept : ¬ s.Departs doc ⟨"$inc", field, .num amount⟩) :
    d.Admits (some (Update.sum current amount)) := by
  obtain ⟨kind | kind, coerces⟩ := inc_cases valid
  · rw [kind] at old coerces
    obtain ⟨i, fitsLeft, left⟩ := old.form
    obtain ⟨j, fitsRight, right⟩ := coerces.form
    cases left
    cases right
    have fits : FitsInt64 (i + j) := by
      by_contra large
      exact kept (.overflow declared kind rfl here large)
    have exact : Update.sum (.int i) (.int j) = .int (i + j) := by
      simp only [Update.sum, Number.asInt64?, if_pos fitsLeft, if_pos fitsRight, if_pos fits]
    rw [exact]
    exact FieldDef.admits_of_fixed (kind ▸ Kind.fixed_int fits) (by simp [Json.int])
  · rw [kind] at old coerces
    obtain ⟨x, left⟩ := old.form
    obtain ⟨y, right⟩ := coerces.form
    cases left
    cases right
    have inexact : Update.sum (.double x) (.double y) = Json.ofBinary64? (x.add y) := rfl
    rw [inexact]
    cases large : x.add y with
    | some z => exact FieldDef.admits_of_fixed (kind ▸ Kind.fixed_float z) (by simp [Json.ofBinary64?])
    | none =>
      refine FieldDef.admits_null (Bool.eq_false_iff.2 fun required => ?_)
      exact kept (.infinite declared kind required rfl here large)

/-- Items that are added to an array are of the kind of its elements, unless they are listed and
another one is among them. -/
theorem fixed_of_addedItems {element : Kind} {added : List Json} {v : Json}
    (declared : s.field? field = some d) (kind : d.type.kind = .array element)
    (pushes : operator = "$push" ∨ operator = "$addToSet") (coerces : element.Coerces v operand)
    (items : Update.addedItems operand = .ok added)
    (kept : ¬ s.Departs doc ⟨operator, field, operand⟩) : ∀ x ∈ added, element.Fixed x := by
  have fixed : element.Fixed operand := coerces.fixed <| by
    by_contra late
    exact kept (.lateItem declared kind pushes late)
  unfold Update.addedItems at items
  split at items
  · rename_i xs listed
    cases items
    intro x hx
    obtain ⟨fs, rfl⟩ : ∃ fs, operand = .obj fs := by cases operand <;> simp_all [Json.get?]
    have form := fixed.form
    cases element with
    | any => exact Kind.fixed_any x
    | object =>
      have object : x.isObject = true := by
        by_contra other
        exact kept (.each declared kind pushes listed ⟨x, hx, by simpa using other⟩)
      cases x with
      | obj gs => exact Kind.fixed_object gs
      | _ => cases object
    | _ => simp [Kind.Form, Json.int] at form
  · cases items
  · cases items
    simpa using fixed

/-- **What an edit writes under a declared field may stand there.** -/
theorem admits_written (declared : s.field? field = some d)
    (valid : s.Validated ⟨operator, field, operand⟩) (old : d.Admits (doc.getPath? field))
    (writes : Writes doc field operator operand value)
    (kept : ¬ s.Departs doc ⟨operator, field, operand⟩) : d.Admits (some value) := by
  obtain ⟨v, valid⟩ := valid d declared
  cases writes with
  | set sets =>
    subst sets
    obtain ⟨rfl, optional⟩ | ⟨present, coerces⟩ := set_cases valid
    · exact FieldDef.admits_null optional
    · refine FieldDef.admits_of_fixed (coerces.fixed ?_) present
      by_contra late
      exact kept (.lateValue declared rfl late)
  | start increments number =>
    subst increments number
    obtain ⟨kind, coerces⟩ := inc_cases valid
    refine FieldDef.admits_of_fixed (coerces.fixed ?_) (by simp)
    rcases kind with kind | kind <;> rw [kind] <;> trivial
  | add increments number here =>
    subst increments number
    exact admits_sum declared valid here (old.formed _ here (by simp)) kept
  | append pushes items here =>
    obtain ⟨element, kind, coerces⟩ := push_cases pushes valid
    have new := fixed_of_addedItems declared kind pushes coerces items kept
    refine FieldDef.admits_of_fixed ?_ (by simp)
    rw [kind, Kind.fixed_array]
    intro x hx
    rcases Update.mem_foldl_addItem hx with hx | hx
    · exact new x hx
    · rcases here with ⟨-, rfl⟩ | here
      · cases hx
      · have list := old.formed _ here (by simp)
        rw [kind, Kind.fixed_array] at list
        exact list x hx

end

/-! ## Documents that conform -/

section

variable {s : Schema}

theorem Conforming.insert {fs : Fields} (h : s.Conforming (.obj fs)) {root : String} {v : Json}
    (admitted : ∀ d, s.field? root = some d → d.Admits (some v)) :
    s.Conforming (.obj (fs.insert root v)) := by
  cases h with
  | obj distinct declared =>
    refine .obj (Fields.nodup_keys_insert distinct root v) fun name d hd => ?_
    by_cases same : name = root
    · subst same
      rw [Fields.get?_insert_self]
      exact admitted d hd
    · rw [Fields.get?_insert_of_ne same]
      exact declared name d hd

theorem Conforming.erase {fs : Fields} (h : s.Conforming (.obj fs)) {leaf : String}
    (optional : ∀ d, s.field? leaf = some d → d.required = false) :
    s.Conforming (.obj (fs.erase leaf)) := by
  cases h with
  | obj distinct declared =>
    refine .obj (Fields.nodup_keys_erase distinct leaf) fun name d hd => ?_
    by_cases same : name = leaf
    · subst same
      rw [Fields.get?_erase_self distinct]
      exact FieldDef.admits_none (optional d hd)
    · rw [Fields.get?_erase_of_ne distinct same]
      exact declared name d hd

variable {doc doc' : Json} {e : Edit}

theorem Conforming.admits_get {field : String} {d : FieldDef} (h : s.Conforming doc)
    (declared : s.field? field = some d) (dotFree : '.' ∉ field.toList) :
    d.Admits (doc.getPath? field) := by
  cases h with
  | obj _ admits =>
    rw [Json.getPath?_of_not_mem dotFree]
    exact admits field d declared

/-- **One edit keeps a document in the declared kinds**, unless it departs from them. -/
theorem conforming_edit (dotFree : ∀ name d, s.field? name = some d → '.' ∉ name.toList)
    (h : s.Conforming doc) (valid : s.Validated e) (kept : ¬ s.Departs doc e)
    (applied : e.apply doc = .ok doc') : s.Conforming doc' := by
  cases h with
  | @obj fs distinct declared =>
  have conforming : s.Conforming (.obj fs) := .obj distinct declared
  cases Update.effect_of_apply applied with
  | keep => exact conforming
  | @remove _ field _ _ unsets =>
    subst unsets
    obtain same | ⟨leaf, path, gone⟩ | ⟨root, segment, rest, below, path, here, gone⟩ :=
      Json.removePath_obj fs field
    · rw [same]
      exact conforming
    · obtain rfl := Path.eq_of_ofString path
      rw [gone]
      refine conforming.erase fun d hd => ?_
      obtain ⟨v, valid⟩ := valid d hd
      exact optional_of_unset valid
    · rw [gone]
      refine conforming.insert fun d hd => ?_
      have old := declared root d hd
      rw [here] at old
      exact old.removeSegments _
  | @write operator field operand value _ _ writes set =>
    obtain ⟨root, w, rfl, there⟩ := Json.setPath?_obj set
    refine conforming.insert fun d hd => ?_
    rcases there with ⟨path, rfl⟩ | ⟨segment, rest, gs, path, rfl, none | ⟨hs, here⟩⟩
    · obtain rfl := Path.eq_of_ofString path
      exact admits_written hd valid (conforming.admits_get hd (dotFree field d hd)) writes kept
    · have kind : d.type.kind = .object ∨ d.type.kind = .any := by
        by_contra other
        exact kept (.below path hd (not_or.1 other) none writes.ne_unset)
      exact FieldDef.admits_of_fixed (Kind.fixed_obj kind gs) (by simp)
    · exact FieldDef.Admits.obj (here ▸ declared root d hd) gs

/-- No edit departs from the declared kinds when its turn comes. -/
def StaysWithin (s : Schema) : Json → List Edit → Prop
  | _, [] => True
  | doc, e :: es => ¬ s.Departs doc e ∧ ∀ next, e.apply doc = .ok next → s.StaysWithin next es

theorem conforming_foldlM {es : List Edit}
    (dotFree : ∀ name d, s.field? name = some d → '.' ∉ name.toList) (h : s.Conforming doc)
    (valid : ∀ e ∈ es, s.Validated e) (kept : s.StaysWithin doc es)
    (applied : es.foldlM Edit.apply doc = .ok doc') : s.Conforming doc' := by
  induction es generalizing doc with
  | nil =>
    cases applied
    exact h
  | cons e es ih =>
    obtain ⟨first, others⟩ := List.forall_mem_cons.1 valid
    rw [List.foldlM_cons] at applied
    obtain ⟨next, step, applied⟩ := bind_eq_ok.1 applied
    exact ih (conforming_edit dotFree h first kept.1 step) others (kept.2 next step) applied

/-- **Validated updates keep documents of the declared kinds**, apart from edits that depart from
them. If the declared fields of a document hold values in normal form, so do those of the document
after an update that was validated and is applied, as long as no edit, when its turn comes, adds
beyond the range of its kind, makes an object below a declared field that is not one for objects,
lists another item for an array of objects, or writes a timestamp that is not of the years 0 to
9999. -/
theorem conforming_apply {update update' : Json}
    (dotFree : ∀ name d, s.field? name = some d → '.' ∉ name.toList) (h : s.Conforming doc)
    (valid : s.validateUpdate update = .ok update') (kept : s.StaysWithin doc (edits update'))
    (applied : Update.apply doc update' = .ok doc') : s.Conforming doc' :=
  conforming_foldlM dotFree h (validated_of_validateUpdate valid) kept (Update.foldlM_edits applied)

end

theorem conforming_single {c name : String} {d : FieldDef} {v : Json} :
    ((Schema.mk c []).define name d).Conforming (.obj [(name, v)]) ↔ d.Admits (some v) := by
  have own : Fields.get? [(name, v)] name = some v := by simp [Fields.get?]
  have declared {other : String} {e : FieldDef} :
      ((Schema.mk c []).define name d).field? other = some e ↔ other = name ∧ e = d := by
    rw [(Built.define (.empty c) name d).field?_eq_some_iff]
    simp [Schema.define, defineIn]
  constructor
  · rintro ⟨-, admits⟩
    exact own ▸ admits name d (declared.2 ⟨rfl, rfl⟩)
  · intro admits
    refine .obj (List.nodup_singleton _) fun other e h => ?_
    obtain ⟨rfl, rfl⟩ := declared.1 h
    exact own ▸ admits

/-- An amount given as text, and a path below a field that is not declared. -/
theorem conforming_apply_increment :
    let s := (Schema.mk "c" []).define "n" (.mandatory ⟨"int", .int, {}⟩)
    let update : Json :=
      .obj [("$inc", .obj [("n", .str "2")]), ("$set", .obj [("by.name", .str "x")])]
    let update' : Json :=
      .obj [("$inc", .obj [("n", .int 2)]), ("$set", .obj [("by.name", .str "x")])]
    let doc' : Json := .obj [("n", .int 3), ("by", .obj [("name", .str "x")])]
    s.validateUpdate update = .ok update' ∧ Update.apply (.obj [("n", .int 1)]) update' = .ok doc' ∧
      s.Conforming doc' := by
  intro s update update' doc'
  have valid : s.validateUpdate update = .ok update' := by rfl
  have applied : Update.apply (.obj [("n", .int 1)]) update' = .ok doc' := by rfl
  have names {name : String} {d : FieldDef} (h : s.field? name = some d) :
      name = "n" ∧ d = .mandatory ⟨"int", .int, {}⟩ := by
    have mem := (Built.define (.empty "c") "n" (.mandatory ⟨"int", .int, {}⟩)).field?_eq_some_iff.1 h
    simpa [Schema.define, defineIn] using mem
  have dotFree : ∀ name d, s.field? name = some d → '.' ∉ name.toList := by
    intro name d h
    obtain ⟨rfl, -⟩ := names h
    decide
  have start : s.Conforming (.obj [("n", .int 1)]) := by
    refine .obj (by decide) fun name d h => ?_
    obtain ⟨rfl, rfl⟩ := names h
    exact FieldDef.admits_of_fixed (Kind.fixed_int (by decide)) (by simp [Json.int])
  refine ⟨valid, applied, conforming_apply dotFree start valid ⟨?_, fun next step => ⟨?_, ?_⟩⟩ applied⟩
  · intro departs
    cases departs with
    | overflow _ _ _ here large =>
      cases Option.some.inj here
      exact large (by decide)
    | below path =>
      have alone : Path.ofString "n" = ["n"] := by decide
      rw [alone] at path
      cases path
    | each declared kind =>
      obtain ⟨-, rfl⟩ := names declared
      cases kind
    | lateValue declared =>
      obtain ⟨-, rfl⟩ := names declared
      contradiction
    | lateItem declared kind =>
      obtain ⟨-, rfl⟩ := names declared
      cases kind
  · have undeclared {name : String} (other : name ≠ "n") : s.field? name = none :=
      Option.eq_none_iff_forall_ne_some.2 fun d h => other (names h).1
    exact not_departs_of_undeclared (undeclared (by decide)) (undeclared (by decide))
  · exact fun _ _ => trivial

theorem apply_increment (current amount : Number) :
    Update.apply (.obj [("n", .num current)]) (.obj [("$inc", .obj [("n", .num amount)])]) =
      .ok (.obj [("n", Update.sum current amount)]) := by
  have path : Path.ofString "n" = ["n"] := by decide
  have key : Text.isOperatorKey "$inc" = true := by decide
  have found : (Json.obj [("n", .num current)]).getPath? "n" = some (.num current) := by
    rw [Json.getPath?, path]
    rfl
  have set (v : Json) : (Json.obj [("n", .num current)]).setPath? "n" v = some (.obj [("n", v)]) := by
    rw [Json.setPath?, path]
    rfl
  simp [Update.apply, key, Update.applyOperator, Update.applyField, Update.increment,
    Update.write_eq, found, set]

/-- A sum that does not fit 64 bits becomes a double under a field of integers. -/
theorem not_conforming_overflow :
    let s := (Schema.mk "c" []).define "n" (.mandatory ⟨"int", .int, {}⟩)
    let doc : Json := .obj [("n", .int 9223372036854775807)]
    let update : Json := .obj [("$inc", .obj [("n", .int 1)])]
    s.Registered ∧ s.Conforming doc ∧ s.validateUpdate update = .ok update ∧
      ∃ doc', Update.apply doc update = .ok doc' ∧ ¬ s.Conforming doc' := by
  intro s doc update
  have registered : s.Registered := ⟨.define (.empty _) _ _, {}, ⟨[s]⟩, by rfl⟩
  have start : s.Conforming doc :=
    conforming_single.2 (FieldDef.admits_of_fixed (Kind.fixed_int (by decide)) (by simp [Json.int]))
  refine ⟨registered, start, by rfl, _, apply_increment _ _, fun conforming => ?_⟩
  have admits := conforming_single.1 conforming
  obtain ⟨v, same, present⟩ := admits.present rfl
  obtain rfl := Option.some.inj same
  obtain ⟨x, sum⟩ := sum_eq_double (by decide : FitsInt64 9223372036854775807)
    (by decide : FitsInt64 1) (by decide)
  obtain ⟨k, -, wrong⟩ := (admits.formed _ rfl present).form
  cases sum.symm.trans wrong

end Schema

end DocStore
