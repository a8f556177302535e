import DocStore.Proofs.Json.Decoding
import DocStore.Schema.FieldType

/-!
# Field types read back

A kind stands in an object beside other fields, under a tag and, for an array, the object of its
elements, so it is read back from every object that agrees on these two keys
(`Kind.ofJson?_toFields`), however deeply arrays are nested. Constraints are read back whether they
were set or left out, and so is a field type (`FieldType.ofJson?_toJson`).
-/

namespace DocStore

/-! ## Kinds -/

namespace Json

theorem depthOfFields_append (fs gs : Fields) :
    depth.depthOfFields (fs ++ gs) = max (depth.depthOfFields fs) (depth.depthOfFields gs) := by
  induction fs with
  | nil => simp [depth.depthOfFields]
  | cons f fs ih =>
    obtain ⟨k, v⟩ := f
    rw [List.cons_append, depth.depthOfFields, depth.depthOfFields, ih, Nat.max_assoc]

end Json

namespace Kind

/-- An object describes a kind if it says the same under the two keys that do. -/
def DescribedBy (k : Kind) (fs : Fields) : Prop :=
  Fields.get? fs "type" = Fields.get? k.toFields "type" ∧
    Fields.get? fs "element" = Fields.get? k.toFields "element"

/-- **A kind is read back from every object that describes it**, with enough fuel for its depth. -/
theorem ofJson?_toFields {k : Kind} {fs : Fields} {fuel : Nat} (described : k.DescribedBy fs)
    (deep : (Json.obj k.toFields).depth ≤ fuel) : ofJson? fuel (.obj fs) = some k := by
  induction k generalizing fs fuel with
  | array element ih =>
    obtain ⟨tag, item⟩ := described
    have tag : Fields.get? fs "type" = some (.str "array") := tag
    have item : Fields.get? fs "element" = some (.obj element.toFields) := item
    have levels : (Json.obj (array element).toFields).depth = (Json.obj element.toFields).depth + 1 := by
      simp [toFields, Json.depth, Json.depth.depthOfFields]
    obtain ⟨fuel, rfl⟩ : ∃ n, fuel = n + 1 := ⟨fuel - 1, by omega⟩
    have inner := ih ⟨rfl, rfl⟩ (by omega : _ ≤ fuel)
    simp only [ofJson?, tag, item, inner, Option.bind_eq_bind, Option.bind_some]
    rfl
  | _ =>
    obtain ⟨fuel, rfl⟩ : ∃ n, fuel = n + 1 := ⟨fuel - 1, by
      simp only [Json.depth] at deep
      omega⟩
    simp only [ofJson?, described.1]
    rfl

end Kind

/-! ## Constraints -/

/-- Constraints whose lengths are numbers of 64 bits. -/
structure Constraints.Writable (c : Constraints) : Prop where
  minLength : ∀ n ∈ c.minLength, FitsNat64 n
  maxLength : ∀ n ∈ c.maxLength, FitsNat64 n

namespace Constraints

theorem get?_present_cons (k : String) (v : Option Json) (rest : List (String × Option Json))
    (l : String) :
    Fields.get? (((k, v) :: rest).filterMap fun (k, v) => v.map (k, ·)) l =
      if l = k then v.or (Fields.get? (rest.filterMap fun (k, v) => v.map (k, ·)) l)
      else Fields.get? (rest.filterMap fun (k, v) => v.map (k, ·)) l := by
  cases v with
  | none =>
    rw [List.filterMap_cons_none rfl]
    simp
  | some v =>
    show Fields.get? ((k, v) :: rest.filterMap fun (k, v) => v.map (k, ·)) l = _
    rw [Fields.get?_cons]
    rfl

/-- **Constraints are read back**, those that are set and those that are left out. -/
theorem ofJson?_toJson {c : Constraints} (h : c.Writable) : ofJson? c.toJson = some c := by
  obtain ⟨minLength, maxLength, min, max, pattern⟩ := c
  obtain ⟨shortest, longest⟩ := h
  have fields : (toJson ⟨minLength, maxLength, min, max, pattern⟩).recordFields?
      ["min_length", "max_length", "min", "max", "pattern"] =
        some [minLength.map .nat, maxLength.map .nat, min.map fun x => .num (.double x),
          max.map fun x => .num (.double x), pattern.map .str] := by
    simp only [toJson, Json.present, Json.recordFields?, List.map_cons, List.map_nil,
      get?_present_cons]
    simp [Fields.get?]
  have length (n : Option Nat) (fits : ∀ m ∈ n, FitsNat64 m) :
      Json.optional? Json.asNat64? (n.map .nat) = some n :=
    Json.optional?_map (fun m mem => Json.asNat64?_nat (fits m mem)) fun m _ => by simp [Json.nat]
  have bound (x : Option Binary64) :
      Json.optional? Json.asBinary64? (x.map fun x => .num (.double x)) = some x :=
    Json.optional?_map (fun _ _ => rfl) fun _ _ => by simp
  have text (s : Option String) : Json.optional? Json.text? (s.map .str) = some s :=
    Json.optional?_map (fun _ _ => rfl) fun _ _ => by simp
  simp only [ofJson?, fields, Option.bind_eq_bind, Option.bind_some, length minLength shortest,
    length maxLength longest, bound, text]
  rfl

end Constraints

/-! ## Field types -/

namespace FieldType

/-- **A field type is read back**, whatever its kind. -/
theorem ofJson?_toJson {t : FieldType} (h : t.constraints.Writable) :
    ofJson? t.toJson = some t := by
  obtain ⟨name, kind, constraints⟩ := t
  have described : kind.DescribedBy
      (("name", .str name) :: kind.toFields ++ [("constraints", constraints.toJson)]) := by
    cases kind with
    | _ => exact ⟨rfl, rfl⟩
  have deep : (Json.obj kind.toFields).depth ≤ (toJson ⟨name, kind, constraints⟩).depth + 1 := by
    simp only [toJson, Json.depth, List.cons_append, Json.depth.depthOfFields,
      Json.depthOfFields_append]
    omega
  have constrained : Fields.get?
      (("name", .str name) :: kind.toFields ++ [("constraints", constraints.toJson)]) "constraints" =
        some constraints.toJson := by
    cases kind with
    | _ => rfl
  have back : Json.defaulted? {} Constraints.ofJson? (some constraints.toJson) = some constraints :=
    Constraints.ofJson?_toJson h
  have kind_back := Kind.ofJson?_toFields described deep
  rw [toJson] at kind_back ⊢
  simp only [ofJson?, kind_back, constrained, back, Option.bind_eq_bind, Option.bind_some]
  rfl

end FieldType

end DocStore
