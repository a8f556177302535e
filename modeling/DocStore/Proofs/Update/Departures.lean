import DocStore.Proofs.Update.Declared

/-!
# Departures from the declared kinds

Edits that depart from the declared kinds do so indeed: a validated edit keeps a document in the
declared kinds if and only if it does not depart from them (`Schema.conforming_edit_iff`). An item
that is not added to an array because an equal one is there is no way around this: what equals a
value in normal form holds no other timestamps.
-/

namespace DocStore

open Update (Edit Effect addItem addedItems)

theorem Json.isObject_of_equals {v w : Json} (equal : v.equals w = true)
    (object : v.isObject = true) : w.isObject = true := by
  cases v with
  | obj fs =>
    cases w with
    | obj gs => rfl
    | _ => cases equal
  | _ => cases object

namespace Kind

/-- The timestamps of a value that equals one in normal form are of the years 0 to 9999 too. -/
theorem Fixed.withinYears_of_equals {k : Kind} {v w : Json} (h : k.Fixed v)
    (equal : v.equals w = true) : k.WithinYears w := by
  induction k generalizing v w with
  | array element ih =>
    rintro ys rfl y hy
    obtain ⟨xs, rfl, -⟩ := h.form
    rw [Json.equals, Json.equalItems_iff] at equal
    obtain ⟨x, hx, same⟩ := Fallible.exists_of_mem equal hy
    exact ih (fixed_array.1 h x hx) same
  | datetime =>
    rintro t rfl
    obtain ⟨s, u, -, rfl⟩ := h.form
    rw [Json.equals, beq_iff_eq] at equal
    exact h.withinYears t (by rw [equal])
  | _ => trivial

end Kind

/-! ## What is written -/

namespace Update

variable {doc doc' operand : Json} {operator field : String}

/-- A number that is there is counted up. -/
theorem Effect.of_increment {current amount : Number} (increments : operator = "$inc")
    (here : doc.getPath? field = some (.num current))
    (h : Effect doc ⟨operator, field, .num amount⟩ doc') :
    doc.setPath? field (sum current amount) = some doc' := by
  subst increments
  cases h with
  | keep sets => contradiction
  | remove _ unsets => contradiction
  | write _ writes set =>
    cases writes with
    | set sets => contradiction
    | start _ _ missing =>
      rw [missing] at here
      cases here
    | add _ number here' =>
      cases number
      cases here.symm.trans here'
      exact set
    | append pushes => simp at pushes

/-- Items are written with the array that they are added to. -/
theorem Effect.of_pushes (pushes : operator = "$push" ∨ operator = "$addToSet")
    (h : Effect doc ⟨operator, field, operand⟩ doc') :
    ∃ added xs, addedItems operand = .ok added ∧ doc.setPath? field (.arr xs) = some doc' ∧
      ∀ x ∈ added, ∃ y ∈ xs, y = x ∨ y.equals x = true := by
  cases h with
  | keep sets => simp [sets] at pushes
  | remove _ unsets => simp [unsets] at pushes
  | write _ writes set =>
    cases writes with
    | set other | start other | add other => simp [other] at pushes
    | append _ items => exact ⟨_, _, items, set, fun x hx => exists_mem_foldl_addItem hx⟩

end Update

namespace Schema

variable {s : Schema} {doc doc' : Json} {e : Edit}

theorem Conforming.admits_insert {fs : Fields} {root : String} {v : Json} {d : FieldDef}
    (h : s.Conforming (.obj (fs.insert root v))) (declared : s.field? root = some d) :
    d.Admits (some v) := by
  cases h with
  | obj _ admits => simpa [Fields.get?_insert_self] using admits root d declared

/-- What is written at a declared field may stand there if the document conforms afterwards. -/
theorem Conforming.admits_set {field : String} {value : Json} {d : FieldDef} (h : s.Conforming doc)
    (after : s.Conforming doc') (declared : s.field? field = some d) (dotFree : '.' ∉ field.toList)
    (set : doc.setPath? field value = some doc') : d.Admits (some value) := by
  cases h with
  | obj =>
    have alone := Path.ofString_eq_singleton.2 ⟨rfl, dotFree⟩
    obtain ⟨root, w, rfl, ⟨path, rfl⟩ | ⟨segment, rest, gs, path, -⟩⟩ := Json.setPath?_obj set
    · obtain rfl := Path.eq_of_ofString path
      exact after.admits_insert declared
    · rw [alone] at path
      cases path

/-! ## What a document that conforms afterwards tells of an edit -/

section

variable {operand : Json} {operator field : String} {d : FieldDef}
variable (h : s.Conforming doc) (after : s.Conforming doc') (declared : s.field? field = some d)
variable (dotFree : '.' ∉ field.toList)
include h after declared dotFree

theorem fits_sum {i j : Int} (effect : Effect doc ⟨operator, field, .int j⟩ doc')
    (valid : s.Validated ⟨operator, field, .int j⟩) (kind : d.type.kind = .int)
    (increments : operator = "$inc") (here : doc.getPath? field = some (.int i)) :
    FitsInt64 (i + j) := by
  have set := effect.of_increment increments here
  subst increments
  obtain ⟨v, valid⟩ := valid d declared
  have old := ((h.admits_get declared dotFree).formed _ here (by simp [Json.int])).form
  have new := (inc_cases valid).2.form
  rw [kind] at old new
  obtain ⟨_, left, ⟨⟩⟩ := old
  obtain ⟨_, right, ⟨⟩⟩ := new
  by_contra large
  obtain ⟨x, sum⟩ := sum_eq_double left right large
  have admits := h.admits_set after declared dotFree set
  rw [sum] at admits
  have form := (admits.formed _ rfl (by simp)).form
  rw [kind] at form
  obtain ⟨_, -, ⟨⟩⟩ := form

theorem finite_sum {x y : Binary64} (effect : Effect doc ⟨operator, field, .num (.double y)⟩ doc')
    (required : d.required = true) (increments : operator = "$inc")
    (here : doc.getPath? field = some (.num (.double x))) : x.add y ≠ none := by
  intro large
  have set := effect.of_increment increments here
  obtain ⟨v, same, present⟩ := (h.admits_set after declared dotFree set).present required
  cases same
  have sum : Update.sum (.double x) (.double y) = Json.ofBinary64? (x.add y) := rfl
  rw [sum, large] at present
  exact present rfl

/-- What is listed for an array of objects are objects. -/
theorem isObject_of_each (effect : Effect doc ⟨operator, field, operand⟩ doc')
    (kind : d.type.kind = .array .object) (pushes : operator = "$push" ∨ operator = "$addToSet")
    {xs : List Json} (listed : operand.get? "$each" = some (.arr xs)) :
    ∀ x ∈ xs, x.isObject = true := by
  intro x hx
  obtain ⟨added, ys, items, set, kept⟩ := effect.of_pushes pushes
  rw [addedItems, listed] at items
  cases items
  obtain ⟨y, hy, same⟩ := kept x hx
  have array := (h.admits_set after declared dotFree set).formed _ rfl (by simp)
  rw [kind, Kind.fixed_array] at array
  obtain ⟨fs, rfl⟩ := (array y hy).form
  rcases same with rfl | equal
  · rfl
  · exact Json.isObject_of_equals equal rfl

theorem withinYears_of_set (effect : Effect doc ⟨operator, field, operand⟩ doc')
    (sets : operator = "$set") : d.type.kind.WithinYears operand := by
  by_cases null : operand = .null
  · exact null ▸ Kind.withinYears_null _
  cases effect with
  | keep _ same =>
    cases here : doc.getPath? "_id" with
    | none =>
      rw [here] at same
      cases same
    | some v =>
      rw [here, Option.any_some] at same
      have present : v ≠ .null := by
        rintro rfl
        cases operand <;> simp_all [Json.equals]
      have fixed := (h.admits_get declared dotFree).formed v here present
      exact fixed.withinYears_of_equals same
  | remove _ unsets => simp [sets] at unsets
  | write _ writes set =>
    cases writes with
    | set => exact ((h.admits_set after declared dotFree set).formed _ rfl null).withinYears
    | start other | add other => simp [sets] at other
    | append pushes => simp [sets] at pushes

theorem withinYears_of_pushes {element : Kind} (effect : Effect doc ⟨operator, field, operand⟩ doc')
    (kind : d.type.kind = .array element) (pushes : operator = "$push" ∨ operator = "$addToSet") :
    element.WithinYears operand := by
  by_cases object : ∃ fs, operand = .obj fs
  · obtain ⟨fs, rfl⟩ := object
    exact element.withinYears_obj fs
  obtain ⟨added, ys, items, set, kept⟩ := effect.of_pushes pushes
  have alone : addedItems operand = .ok [operand] := by
    cases operand with
    | obj fs => exact absurd ⟨fs, rfl⟩ object
    | _ => rfl
  cases alone.symm.trans items
  obtain ⟨y, hy, same⟩ := kept operand (List.mem_singleton_self operand)
  have array := (h.admits_set after declared dotFree set).formed _ rfl (by simp)
  rw [kind, Kind.fixed_array] at array
  rcases same with rfl | equal
  · exact (array y hy).withinYears
  · exact (array y hy).withinYears_of_equals equal

end

/-- What is written below a declared field makes an object of it. -/
theorem kind_of_below {operand : Json} {operator field root segment : String} {rest : Path}
    {d : FieldDef} (h : s.Conforming doc) (after : s.Conforming doc')
    (declared : s.field? root = some d) (effect : Effect doc ⟨operator, field, operand⟩ doc')
    (path : Path.ofString field = root :: segment :: rest) (writes : operator ≠ "$unset") :
    d.type.kind = .object ∨ d.type.kind = .any := by
  cases effect with
  | keep =>
    rw [Path.ofString_eq_singleton.2 ⟨rfl, by decide⟩] at path
    cases path
  | remove _ unsets => exact absurd unsets writes
  | write _ _ set =>
    cases h with
    | obj =>
      obtain ⟨_, w, rfl, ⟨alone, -⟩ | ⟨_, _, gs, split, rfl, -⟩⟩ := Json.setPath?_obj set
      · rw [alone] at path
        cases path
      · rw [split] at path
        cases path
        exact ((after.admits_insert declared).formed _ rfl (by simp)).kind_of_obj

/-- **An edit that departs from the declared kinds takes the document out of them.** -/
theorem not_conforming_of_departs (dotFree : ∀ name d, s.field? name = some d → '.' ∉ name.toList)
    (h : s.Conforming doc) (valid : s.Validated e) (applied : e.apply doc = .ok doc')
    (departs : s.Departs doc e) : ¬ s.Conforming doc' := by
  intro after
  have effect := Update.effect_of_apply applied
  cases departs with
  | overflow declared kind increments here large =>
    exact large (fits_sum h after declared (dotFree _ _ declared) effect valid kind increments here)
  | infinite declared _ required increments here large =>
    exact finite_sum h after declared (dotFree _ _ declared) effect required increments here large
  | below path declared kind _ writes =>
    exact not_or.2 kind (kind_of_below h after declared effect path writes)
  | each declared kind pushes listed other =>
    obtain ⟨x, hx, other⟩ := other
    have object :=
      isObject_of_each h after declared (dotFree _ _ declared) effect kind pushes listed x hx
    rw [other] at object
    cases object
  | lateValue declared sets late =>
    exact late (withinYears_of_set h after declared (dotFree _ _ declared) effect sets)
  | lateItem declared kind pushes late =>
    exact late (withinYears_of_pushes h after declared (dotFree _ _ declared) effect kind pushes)

/-- **A validated edit keeps a document in the declared kinds if and only if it does not depart from
them.** -/
theorem conforming_edit_iff (dotFree : ∀ name d, s.field? name = some d → '.' ∉ name.toList)
    (h : s.Conforming doc) (valid : s.Validated e) (applied : e.apply doc = .ok doc') :
    s.Conforming doc' ↔ ¬ s.Departs doc e :=
  ⟨fun after departs => not_conforming_of_departs dotFree h valid applied departs after,
    fun kept => conforming_edit dotFree h valid kept applied⟩

end Schema

end DocStore
