import DocStore.Proofs.Filter.Agreement
import DocStore.Proofs.Filter.Keys
import DocStore.Proofs.Json.Paths
import DocStore.Proofs.Schema.Conformance

/-!
# Documents are found by what was inserted

A value goes through a coercion twice on its way: when it is validated as part of a document, and
when it is the operand of a filter. Both lead to the same form (`Predicate.coerceOperand_settled`),
and a value equals itself, so the equality filter on what was given selects what was stored
(`Filter.selects_inserted`).
-/

namespace DocStore

open Fallible (bind_eq_ok)

namespace Predicate

/-! ## Equality -/

theorem checkPlain_eq_ok {field : String} {v : Json}
    (plain : ∀ fs, v = .obj fs → ∀ f ∈ fs, Text.isOperatorKey f.1 = false) :
    checkPlain field v = .ok () := by
  unfold checkPlain
  split
  · rename_i fs
    have none : (fs.find? fun f => Text.isOperatorKey f.1) = none :=
      List.find?_eq_none.2 fun f hf => by simp [plain fs rfl f hf]
    rw [none]
  · rfl

/-- **An operand of equality takes the form that the value takes in a document.** -/
theorem coerceOperand_settled {types : FieldLookup} {field : String} {d : FieldDef} {v : Json}
    {out : Option Json} (declared : types field = some d.type)
    (plain : ∀ fs, v = .obj fs → ∀ f ∈ fs, Text.isOperatorKey f.1 = false)
    (settled : d.Settles field (some v) out) :
    ∃ w, out = some w ∧ coerceOperand types field .eq v = .ok w := by
  cases settled with
  | null optional =>
    refine ⟨_, rfl, bind_eq_ok.2 ⟨(), checkPlain_eq_ok plain, ?_⟩⟩
    simp only [declared]
    rfl
  | @given _ w present valid =>
    obtain ⟨coerces, checked⟩ := FieldType.validate_eq_ok.1 valid
    have coerced : d.type.kind.coerce field v = .ok w := Kind.coerce_eq_ok.2 coerces
    have notNull : v.isNull = false := by cases v <;> simp_all [Json.isNull]
    refine ⟨w, rfl, bind_eq_ok.2 ⟨(), checkPlain_eq_ok plain, ?_⟩⟩
    simp only [declared, notNull]
    split
    · contradiction
    · split
      · rename_i kind
        rw [← kind, coerced]
      · rename_i kind noList
        rw [kind] at coerces
        obtain ⟨xs, _, rfl, -⟩ := coerces
        exact absurd rfl (noList xs)
      · exact bind_eq_ok.2 ⟨w, coerced, bind_eq_ok.2 ⟨(), checked, rfl⟩⟩

/-- The query of a lone equality is the bare operand at its field. -/
theorem queryOf_equality {types : FieldLookup} {field : String} {v w : Json}
    (h : coerceOperand types field .eq v = .ok w) :
    queryOf types [⟨field, .eq, v⟩] = .ok (.single field w) := by
  have operand : operand types ⟨field, .eq, v⟩ = .ok w := h
  simp only [queryOf, List.foldlM_cons, List.foldlM_nil, operand]
  rfl

end Predicate

namespace Query

/-- A document is selected by the very value that it has at a field. -/
theorem selects_own {fs : Fields} {field : String} {w : Json}
    (proper : Text.isOperatorKey field = false) (dotFree : '.' ∉ field.toList)
    (here : fs.get? field = some w) (wf : w.WellFormed)
    (plain : ∀ gs, w = .obj gs → isOperatorDocument gs = false) :
    selects (.obj fs) (.single field w) = .ok true := by
  rw [selects_single, selectsOne_of_field _ proper, Json.getPath?_of_not_mem dotFree]
  have child : (Json.obj fs).child? field = some w := here
  have equal : equalTo (some w) w = true := equalTo_iff.2 (.inl (Json.equals_refl wf))
  rw [child, satisfiesCondition_bare plain, equal]

end Query

namespace Filter

/-- The filter of a mapping with one equality, and its query. -/
theorem toQuery_equality {types : FieldLookup} {field : String} {v w : Json}
    (proper : Predicate.isFieldName field = true)
    (h : Predicate.coerceOperand types field .eq v = .ok w) :
    ∃ f, ofPredicates (.obj [(field ++ "__eq", v)]) = .ok f ∧
      f.toQuery types = .ok (.single field w) := by
  have key : Predicate.parseKey (field ++ "__eq") = .ok (field, .eq) := by
    rw [← Predicate.parseKey_append proper .eq, String.append_assoc]
    rfl
  refine ⟨{ predicates := [(field ++ "__eq", v)] }, ?_, ?_⟩
  · refine bind_eq_ok.2 ⟨(), Fallible.forM_eq_ok.2 fun e he => ?_, rfl⟩
    rw [List.mem_singleton.1 he]
    exact Fallible.map_eq_ok.2 ⟨_, key, rfl⟩
  · have parsed : Predicate.parse (field ++ "__eq") v = .ok ⟨field, .eq, v⟩ :=
      bind_eq_ok.2 ⟨_, key, rfl⟩
    have own := Predicate.queryOf_equality h
    have parsed : [(field ++ "__eq", v)].mapM (fun x => Predicate.parse x.1 x.2) =
        .ok [⟨field, .eq, v⟩] := Fallible.mapM_eq_ok.2 (.cons parsed .nil)
    refine bind_eq_ok.2 ⟨[.single field w], ?_, rfl⟩
    rw [parts, if_neg (by simp)]
    exact bind_eq_ok.2 ⟨_, parsed, bind_eq_ok.2 ⟨_, own, rfl⟩⟩

/-- **What was inserted is found by the value it was inserted with.** A document that a registered
schema accepts is selected by the equality filter on any declared field and the value that was given
for it, as it was given. -/
theorem selects_inserted {s : Schema} (registered : s.Registered) {given : Fields} {out : Json}
    (wf : (Json.obj given).WellFormed) (accepted : s.validateDocument (.obj given) = .ok out)
    {field : String} {d : FieldDef} (declared : s.field? field = some d)
    (dotFree : '.' ∉ field.toList) {v : Json} (carried : given.get? field = some v)
    (plain : ∀ gs, v = .obj gs → ∀ g ∈ gs, Text.isOperatorKey g.1 = false) :
    ∃ f q, ofPredicates (.obj [(field ++ "__eq", v)]) = .ok f ∧
      f.toQuery (.ofSchema? (some s)) = .ok q ∧ Query.selects out q = .ok true := by
  obtain ⟨_, gs, same, rfl, settled, -⟩ := Schema.settles_validateDocument registered.built accepted
  cases same
  have mem : (field, d) ∈ s.fields := registered.built.field?_eq_some_iff.1 declared
  have proper := registered.isFieldName mem
  have settles : d.Settles field (some v) (gs.get? field) := carried ▸ settled _ mem
  have typed : FieldLookup.ofSchema? (some s) field = some d.type := by
    simp [FieldLookup.ofSchema?, declared]
  obtain ⟨w, here, operand⟩ := Predicate.coerceOperand_settled typed plain settles
  obtain ⟨f, hf, hq⟩ := toQuery_equality proper operand
  refine ⟨f, _, hf, hq, Query.selects_own (Predicate.isOperatorKey_of_isFieldName proper) dotFree
    here ?_ ?_⟩
  · rw [here] at settles
    cases settles with
    | null => exact .null
    | given _ valid =>
      exact (FieldType.validate_eq_ok.1 valid).1.wellFormed (wf.of_get? carried)
  · rintro fs rfl
    exact Predicate.not_isOperatorDocument operand

/-- A list of numbers, one of them given as text, under a field that ends in an underscore. -/
theorem selects_inserted_list :
    let s := (Schema.mk "c" []).define "ports_" (.mandatory ⟨"list", .array .int, {}⟩)
    let v : Json := .arr [.str " 80 ", .int 443]
    let given : Fields := [("host", .str "a"), ("ports_", v)]
    let out : Json := .obj [("host", .str "a"), ("ports_", .arr [.int 80, .int 443])]
    s.validateDocument (.obj given) = .ok out ∧
      ∃ f q, ofPredicates (.obj [("ports___eq", v)]) = .ok f ∧
        f.toQuery (.ofSchema? (some s)) = .ok q ∧ Query.selects out q = .ok true := by
  intro s v given out
  have registered : s.Registered := ⟨.define (.empty _) _ _, {}, ⟨[s]⟩, by rfl⟩
  have accepted : s.validateDocument (.obj given) = .ok out := by rfl
  have wf : (Json.obj given).WellFormed := by
    refine .obj (by decide) fun f hf => ?_
    rcases List.mem_pair.1 hf with rfl | rfl
    · exact .str _
    · refine .arr fun x hx => ?_
      rcases List.mem_pair.1 hx with rfl | rfl
      · exact .str _
      · exact .num _
  have declared : s.field? "ports_" = some (.mandatory ⟨"list", .array .int, {}⟩) := by rfl
  have carried : given.get? "ports_" = some v := by rfl
  exact ⟨accepted, selects_inserted registered wf accepted declared (by decide) carried (by simp [v])⟩

end Filter

end DocStore
