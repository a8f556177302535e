import DocStore.Proofs.Json.Paths
import DocStore.Proofs.Schema.Forms
import DocStore.Proofs.Timestamp.ReadBack

/-!
# Normal forms

A value is in normal form under a kind if coercion leaves it as it is (`Kind.Fixed`). What comes out
of a coercion is in normal form if and only if all timestamps in it are of the years 0 to 9999
(`Kind.Coerces.fixed_iff`).
-/

namespace DocStore.Kind

/-- Coercion leaves a value as it is. -/
def Fixed (k : Kind) (v : Json) : Prop := ∀ field, k.coerce field v = .ok v

/-- The timestamps that a value of a kind consists of are of the years 0 to 9999. -/
def WithinYears : Kind → Json → Prop
  | .datetime, v => ∀ t : Timestamp, v = .str t.text → 0 ≤ t.date.year ∧ t.date.year ≤ 9999
  | .array element, v => ∀ xs, v = .arr xs → ∀ x ∈ xs, element.WithinYears x
  | _, _ => True

theorem withinYears_obj (k : Kind) (fs : Fields) : k.WithinYears (.obj fs) := by
  cases k with
  | datetime => exact fun _ same => nomatch same
  | array => exact fun _ same => nomatch same
  | _ => trivial

theorem withinYears_null (k : Kind) : k.WithinYears .null := by
  cases k with
  | datetime => exact fun _ same => nomatch same
  | array => exact fun _ same => nomatch same
  | _ => trivial

theorem fixed_iff {k : Kind} {v : Json} : k.Fixed v ↔ k.Coerces v v :=
  ⟨fun h => coerce_eq_ok.1 (h ""), fun h _ => coerce_eq_ok.2 h⟩

theorem Fixed.form {k : Kind} {v : Json} (h : k.Fixed v) : k.Form v := (fixed_iff.1 h).form

/-! ## Values in normal form -/

theorem fixed_any (v : Json) : any.Fixed v := fixed_iff.2 rfl

theorem fixed_string (s : String) : string.Fixed (.str s) := fixed_iff.2 rfl

theorem fixed_int {i : Int} (fits : FitsInt64 i) : int.Fixed (.int i) := by
  have word : (Number.int i).asInt64? = some i := Number.asInt64?_eq_some_iff.2 ⟨rfl, fits⟩
  refine fixed_iff.2 ?_
  simp only [Coerces, scalarForm?, Json.int, word]

theorem fixed_float (x : Binary64) : float.Fixed (.num (.double x)) := fixed_iff.2 rfl

theorem fixed_bool (b : Bool) : bool.Fixed (.bool b) := fixed_iff.2 rfl

theorem fixed_object (fs : Fields) : object.Fixed (.obj fs) := fixed_iff.2 rfl

/-- A timestamp of the years 0 to 9999 that was read is written in normal form. -/
theorem fixed_datetime {s : String} {t : Timestamp} (read : Timestamp.ofString? s = some t)
    (low : 0 ≤ t.date.year) (high : t.date.year ≤ 9999) : datetime.Fixed (.str t.text) := by
  have back := Timestamp.ofString?_text (Timestamp.regular_of_ofString? read) low high
  refine fixed_iff.2 ?_
  show (Timestamp.ofString? t.text).map _ = _
  rw [back, Option.map_some, Timestamp.text_toMillis]

/-- An array is in normal form if all of its items are. -/
theorem fixed_array {element : Kind} {xs : List Json} :
    (array element).Fixed (.arr xs) ↔ ∀ x ∈ xs, element.Fixed x := by
  have items :
      (array element).Coerces (.arr xs) (.arr xs) ↔ List.Forall₂ element.Coerces xs xs := by
    constructor
    · rintro ⟨_, _, left, right, items⟩
      cases left
      cases right
      exact items
    · intro items
      exact ⟨xs, xs, rfl, rfl, items⟩
  simp only [fixed_iff, items, List.forall₂_same]

/-- **Coercion gives normal forms**, up to timestamps that are not read back. -/
theorem Coerces.fixed {k : Kind} {v w : Json} (h : k.Coerces v w) (years : k.WithinYears w) :
    k.Fixed w := by
  induction k generalizing v w with
  | array element ih =>
    obtain ⟨xs, ys, -, rfl, items⟩ := h
    refine fixed_array.2 fun y hy => ?_
    obtain ⟨x, -, here⟩ := Fallible.exists_of_mem items hy
    exact ih here (years ys rfl y hy)
  | any => exact fixed_any w
  | string =>
    obtain ⟨s, rfl⟩ := h.form
    exact fixed_string s
  | int =>
    obtain ⟨i, fits, rfl⟩ := h.form
    exact fixed_int fits
  | float =>
    obtain ⟨x, rfl⟩ := h.form
    exact fixed_float x
  | bool =>
    obtain ⟨b, rfl⟩ := h.form
    exact fixed_bool b
  | datetime =>
    obtain ⟨s, t, read, rfl⟩ := h.form
    obtain ⟨low, high⟩ := years t rfl
    exact fixed_datetime read low high
  | object =>
    obtain ⟨fs, rfl⟩ := h.form
    exact fixed_object fs

/-- Normal forms hold no other timestamps: their texts would not be read. -/
theorem Fixed.withinYears {k : Kind} {v : Json} (h : k.Fixed v) : k.WithinYears v := by
  induction k generalizing v with
  | array element ih =>
    rintro xs rfl x hx
    exact ih (fixed_array.1 h x hx)
  | datetime =>
    rintro t rfl
    by_contra late
    have read : (Timestamp.ofString? t.text).map (fun u => Json.str u.text) = some (.str t.text) :=
      fixed_iff.1 h
    rw [Timestamp.ofString?_text_eq_none late] at read
    cases read
  | _ => trivial

/-- What coercion gives is in normal form, unless it is a time of a year that is not read back. -/
theorem Coerces.fixed_iff {k : Kind} {v w : Json} (h : k.Coerces v w) :
    k.Fixed w ↔ k.WithinYears w :=
  ⟨Fixed.withinYears, h.fixed⟩

/-- Two kinds take objects. -/
theorem Fixed.kind_of_obj {k : Kind} {fs : Fields} (h : k.Fixed (.obj fs)) :
    k = .object ∨ k = .any := by
  have form := h.form
  cases k with
  | object => exact .inl rfl
  | any => exact .inr rfl
  | _ => simp [Form, Json.int] at form

/-- Kinds that an object is in normal form under take any object. -/
theorem fixed_obj {k : Kind} (object : k = .object ∨ k = .any) (fs : Fields) :
    k.Fixed (.obj fs) := by
  rcases object with rfl | rfl
  · exact fixed_object fs
  · exact fixed_any _

/-- Removing something below a value keeps its normal form. -/
theorem Fixed.removeSegments {k : Kind} {v : Json} (h : k.Fixed v) (path : Path) :
    k.Fixed (v.removeSegments path) := by
  induction k generalizing v path with
  | array element ih =>
    obtain ⟨xs, rfl, -⟩ := h.form
    obtain same | ⟨i, below, rest, here, removed⟩ := Json.removeSegments_arr path xs
    · rw [same]
      exact h
    · rw [removed]
      rw [fixed_array] at h ⊢
      intro x hx
      rcases List.mem_or_eq_of_mem_set hx with hx | rfl
      · exact h x hx
      · exact ih (h below (List.mem_of_getElem? here)) rest
  | any => exact fixed_any _
  | _ =>
    cases v with
    | obj fs =>
      obtain ⟨gs, removed⟩ := Json.removeSegments_obj path fs
      rw [removed]
      exact fixed_obj h.kind_of_obj gs
    | arr xs => simpa [Form, Json.int] using h.form
    | _ =>
      rw [Json.removeSegments_of_isScalar rfl]
      exact h

end DocStore.Kind
