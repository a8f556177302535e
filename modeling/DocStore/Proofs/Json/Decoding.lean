import DocStore.Json.Decode
import DocStore.Proofs.Json.Fields

/-!
# Records read back

A field of a record is required, has a default, or may be missing or null. What is written for a
field that was decoded is settled by what was there (`Presence.settle`): the value itself, the
default in place of one that is missing, and nothing for an optional null.
-/

namespace DocStore

namespace Json

section

variable {v : Json} {n : Nat}

theorem text?_eq_some {s : String} : v.text? = some s ↔ v = .str s := by
  cases v <;> simp [text?]

theorem items?_eq_some {xs : List Json} : v.items? = some xs ↔ v = .arr xs := by
  cases v <;> simp [items?]

theorem asBool?_eq_some {b : Bool} : v.asBool? = some b ↔ v = .bool b := by
  cases v <;> simp [asBool?]

theorem asNat64?_nat (fits : FitsNat64 n) : (Json.nat n).asNat64? = some n := by
  simp [Json.nat, Json.asNat64?, Number.asNat64?, fits]

/-- A number is read as a natural one if it is written as one of 64 bits. -/
theorem asNat64?_eq_some : v.asNat64? = some n ↔ v = .nat n ∧ FitsNat64 n := by
  constructor
  · intro h
    cases v with
    | num number =>
      cases number with
      | int i =>
        simp only [asNat64?, Number.asNat64?] at h
        split at h
        · rename_i fits
          cases h
          exact ⟨by rw [Json.nat, Int.toNat_of_nonneg fits.1], fits.2⟩
        · cases h
      | double x => cases h
    | _ => cases h
  · rintro ⟨rfl, fits⟩
    exact asNat64?_nat fits

end

end Json

/-- What a record needs under a key. -/
inductive Presence where
  | required
  | defaulted (default : Json)
  | optional

namespace Presence

/-- What is written for a field of a record that was decoded from a value. -/
def settle (key : String) : Presence → Option Json → Fields
  | .required, v => (v.map (key, ·)).toList
  | .defaulted default, v => [(key, v.getD default)]
  | .optional, none => []
  | .optional, some .null => []
  | .optional, some v => [(key, v)]

section

variable {α : Type} {decode : Json → Option α} {encode : α → Json} {key : String} {v : Option Json}

/-- A required part is written as it was read. -/
theorem settle_required {x : α} (exact : ∀ w x, decode w = some x → w = encode x)
    (h : Json.required? decode v = some x) : required.settle key v = [(key, encode x)] := by
  obtain ⟨w, rfl, decoded⟩ := Option.bind_eq_some_iff.1 h
  rw [exact w x decoded]
  rfl

/-- A part that was left out is written as its default. -/
theorem settle_defaulted {default x : α} (exact : ∀ w x, decode w = some x → w = encode x)
    (h : Json.defaulted? default decode v = some x) :
    (defaulted (encode default)).settle key v = [(key, encode x)] := by
  cases v with
  | none =>
    cases h
    rfl
  | some w =>
    rw [exact w x h]
    rfl

/-- A part that may be missing is written if it was there. -/
theorem settle_optional {x : Option α} (exact : ∀ w x, decode w = some x → w = encode x)
    (h : Json.optional? decode v = some x) :
    optional.settle key v = (x.map fun x => (key, encode x)).toList := by
  unfold Json.optional? at h
  split at h
  · cases h
    rfl
  · cases h
    rfl
  · rename_i w other
    obtain ⟨x, decoded, rfl⟩ := Option.map_eq_some_iff.1 h
    rw [exact w x decoded] at other ⊢
    unfold settle
    split <;> simp_all

end

end Presence

namespace Json

variable {α : Type} {decode : Json → Option α} {encode : α → Json}

/-- An optional field is read back from what was written, unless it was written as null. -/
theorem optional?_map {x : Option α} (back : ∀ y ∈ x, decode (encode y) = some y)
    (present : ∀ y ∈ x, encode y ≠ .null) : optional? decode (x.map encode) = some x := by
  cases x with
  | none => rfl
  | some y =>
    have decoded := back y rfl
    have other := present y rfl
    rw [Option.map_some]
    unfold optional?
    split
    · simp_all
    · simp_all
    · simp_all

end Json

/-- Reading after an optional field. -/
theorem Fields.get?_optional_append {α : Type} (k : String) (x : Option α) (encode : α → Json)
    (fs : Fields) (l : String) :
    Fields.get? ((x.map fun x => (k, encode x)).toList ++ fs) l =
      if l = k then (x.map encode).or (Fields.get? fs l) else Fields.get? fs l := by
  cases x with
  | none => simp
  | some x =>
    show Fields.get? ((k, encode x) :: fs) l = _
    rw [get?_cons]
    rfl

end DocStore
