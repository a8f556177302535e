import DocStore.Proofs.Fallible
import DocStore.Proofs.Json.Equality
import DocStore.Schema.Coercion

/-!
# Forms of values

What coercion to a kind makes of a value, without the names that its errors carry
(`Kind.Coerces`), and what the values look like that come out of it (`Kind.Form`).
-/

namespace DocStore.Kind

/-- A value has another one as its form under a kind. -/
def Coerces : Kind → Json → Json → Prop
  | .array element, v, w =>
    ∃ xs ys, v = .arr xs ∧ w = .arr ys ∧ List.Forall₂ element.Coerces xs ys
  | kind, v, w => kind.scalarForm? v = some w

/-- A value is in the form of a kind. -/
def Form : Kind → Json → Prop
  | .string, v => ∃ s, v = .str s
  | .int, v => ∃ i, FitsInt64 i ∧ v = .int i
  | .float, v => ∃ x, v = .num (.double x)
  | .bool, v => ∃ b, v = .bool b
  | .datetime, v => ∃ s t, Timestamp.ofString? s = some t ∧ v = .str t.text
  | .array element, v => ∃ xs, v = .arr xs ∧ ∀ x ∈ xs, element.Form x
  | .object, v => ∃ fs, v = .obj fs
  | .any, _ => True

/-- A list is worked off with numbers if each of its items is, whatever its number does. -/
theorem mapNumbered_eq_ok {f : Nat → Json → Result Json} {P : Json → Json → Prop}
    (h : ∀ i x y, f i x = .ok y ↔ P x y) {i : Nat} {xs ys : List Json} :
    mapNumbered f i xs = .ok ys ↔ List.Forall₂ P xs ys := by
  induction xs generalizing i ys with
  | nil => simp [mapNumbered, eq_comm]
  | cons x xs ih =>
    rw [mapNumbered, Fallible.bind_eq_ok]
    constructor
    · rintro ⟨y, hy, rest⟩
      obtain ⟨zs, hzs, last⟩ := Fallible.bind_eq_ok.1 rest
      cases last
      exact .cons ((h i x y).1 hy) (ih.1 hzs)
    · rintro (_ | ⟨hy, hzs⟩)
      exact ⟨_, (h i x _).2 hy, Fallible.bind_eq_ok.2 ⟨_, ih.2 hzs, rfl⟩⟩

theorem coerce_eq_ok_of_scalar {k : Kind} (scalar : ∀ element, k ≠ .array element) {field : String}
    {v w : Json} : k.coerce field v = .ok w ↔ k.scalarForm? v = some w := by
  unfold coerce
  split
  · exact absurd rfl (scalar _)
  · split
    · rename_i form
      simp [form]
    · rename_i none
      simp [none]

/-- **Coercion gives the form of a value**, under whatever name. -/
theorem coerce_eq_ok {k : Kind} {field : String} {v w : Json} :
    k.coerce field v = .ok w ↔ k.Coerces v w := by
  induction k generalizing field v w with
  | array element ih =>
    cases v with
    | arr xs =>
      rw [coerce, Fallible.map_eq_ok]
      have items {ys : List Json} : mapNumbered (fun i x => coerce s!"{field}[{i}]" element x) 0 xs =
          .ok ys ↔ List.Forall₂ element.Coerces xs ys :=
        mapNumbered_eq_ok (P := element.Coerces) fun _ _ _ => ih
      simp only [items, Coerces, Json.arr.injEq]
      constructor
      · rintro ⟨ys, hys, rfl⟩
        exact ⟨xs, ys, rfl, rfl, hys⟩
      · rintro ⟨_, ys, rfl, rfl, hys⟩
        exact ⟨ys, hys, rfl⟩
    | _ => simp [coerce, scalarForm?, Coerces]
  | _ => exact coerce_eq_ok_of_scalar (by simp)

theorem fits_of_wholeNumber? {x : Binary64} {i : Int} (h : wholeNumber? x = some i) :
    FitsInt64 i := by
  rw [wholeNumber?, Option.ite_none_right_eq_some] at h
  rw [← Option.some.inj h.2, Binary64.toInt64]
  omega

/-- **Values that come out of a coercion are in the form of the kind.** -/
theorem Coerces.form {k : Kind} {v w : Json} (h : k.Coerces v w) : k.Form w := by
  induction k generalizing v w with
  | array element ih =>
    obtain ⟨xs, ys, -, rfl, items⟩ := h
    refine ⟨ys, rfl, fun y hy => ?_⟩
    obtain ⟨x, -, here⟩ := Fallible.exists_of_mem items hy
    exact ih here
  | any => trivial
  | string =>
    cases v with
    | str s => exact ⟨s, (Option.some.inj h).symm⟩
    | _ => cases h
  | int =>
    cases v with
    | num n =>
      simp only [Coerces, scalarForm?] at h
      split at h
      · rename_i i word
        exact ⟨i, (Number.asInt64?_eq_some_iff.1 word).2, (Option.some.inj h).symm⟩
      · obtain ⟨i, whole, rfl⟩ := Option.map_eq_some_iff.1 h
        exact ⟨i, fits_of_wholeNumber? whole, rfl⟩
    | str s =>
      obtain ⟨i, read, rfl⟩ := Option.map_eq_some_iff.1 h
      obtain ⟨j, -, fits⟩ := Option.bind_eq_some_iff.1 read
      split at fits
      · cases fits
        exact ⟨i, by assumption, rfl⟩
      · cases fits
    | _ => cases h
  | float =>
    cases v with
    | num n => exact ⟨_, (Option.some.inj h).symm⟩
    | str s =>
      obtain ⟨x, -, rfl⟩ := Option.map_eq_some_iff.1 h
      exact ⟨x, rfl⟩
    | _ => cases h
  | bool =>
    cases v with
    | bool b => exact ⟨b, (Option.some.inj h).symm⟩
    | str s =>
      obtain ⟨b, -, rfl⟩ := Option.map_eq_some_iff.1 h
      exact ⟨b, rfl⟩
    | num n =>
      simp only [Coerces, scalarForm?] at h
      split at h
      · exact ⟨false, (Option.some.inj h).symm⟩
      · exact ⟨true, (Option.some.inj h).symm⟩
      · cases h
    | _ => cases h
  | datetime =>
    cases v with
    | str s =>
      obtain ⟨t, read, rfl⟩ := Option.map_eq_some_iff.1 h
      exact ⟨s, t, read, rfl⟩
    | _ => cases h
  | object =>
    cases v with
    | obj fs => exact ⟨fs, (Option.some.inj h).symm⟩
    | _ => cases h

/-- Null has a form under the kind of anything only, and nothing else has null as its form. -/
theorem Coerces.eq_null_iff {k : Kind} {v w : Json} (h : k.Coerces v w) : w = .null ↔ v = .null := by
  constructor
  · rintro rfl
    have form := h.form
    cases k with
    | any => exact Option.some.inj h
    | _ => simp [Form, Json.int] at form
  · rintro rfl
    cases k with
    | any => exact (Option.some.inj h).symm
    | _ => simp [Coerces, scalarForm?] at h

/-- Coercion makes no objects: one that comes out went in. -/
theorem Coerces.eq_of_obj {k : Kind} {v : Json} {fs : Fields} (h : k.Coerces v (.obj fs)) :
    v = .obj fs := by
  have form := h.form
  cases k with
  | any => exact Option.some.inj h
  | object =>
    cases v with
    | obj gs => exact Option.some.inj h
    | _ => cases h
  | _ => simp [Form, Json.int] at form

/-- The form of a value without repeated keys repeats none. -/
theorem Coerces.wellFormed {k : Kind} {v w : Json} (h : k.Coerces v w) (wf : v.WellFormed) :
    w.WellFormed := by
  induction k generalizing v w with
  | array element ih =>
    obtain ⟨xs, ys, rfl, rfl, items⟩ := h
    refine .arr fun y hy => ?_
    obtain ⟨x, hx, here⟩ := Fallible.exists_of_mem items hy
    exact ih here (wf.items x hx)
  | any => exact Option.some.inj h ▸ wf
  | object =>
    cases v with
    | obj fs => exact Option.some.inj h ▸ wf
    | _ => cases h
  | string =>
    obtain ⟨s, rfl⟩ := h.form
    exact .str s
  | int =>
    obtain ⟨i, -, rfl⟩ := h.form
    exact .num (.int i)
  | float =>
    obtain ⟨x, rfl⟩ := h.form
    exact .num (.double x)
  | bool =>
    obtain ⟨b, rfl⟩ := h.form
    exact .bool b
  | datetime =>
    obtain ⟨_, t, -, rfl⟩ := h.form
    exact .str t.text

end DocStore.Kind
