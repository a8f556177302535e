import DocStore.Proofs.Json.Fields
import DocStore.Proofs.Json.Paths

/-!
# What is in the way of a write

A value can be written at a path unless the path leads into something that is no object
(`Json.setPath?_eq_none_iff`). What is in the way at a path after a write stood there before, or is
a part of what was written (`Json.getSegments?_of_setSegments?`).
-/

namespace DocStore.Json

/-- A path leads into a value that is no object, so that nothing can be written at it. -/
def Obstructs (v : Json) (path : Path) : Prop :=
  ∃ outer inner w, path = outer ++ inner ∧ inner ≠ [] ∧ v.getSegments? outer = some w ∧
    w.isObject = false

theorem exists_fields {v : Json} (object : v.isObject = true) : ∃ fs, v = .obj fs := by
  cases v with
  | obj fs => exact ⟨fs, rfl⟩
  | _ => cases object

theorem getSegments?_cons (v : Json) (segment : String) (path : Path) :
    v.getSegments? (segment :: path) = (v.child? segment).bind (·.getSegments? path) := rfl

/-- In an empty object nothing but the object itself can be read. -/
theorem getSegments?_empty {path : Path} {w : Json} (h : (Json.obj []).getSegments? path = some w) :
    w = .obj [] := by
  cases path with
  | nil => exact (Option.some.inj h).symm
  | cons segment rest => cases h

/-- Below a value that is no object, everything is obstructed. -/
theorem obstructs_of_not_isObject {v : Json} (h : v.isObject = false) (segment : String)
    (rest : Path) : v.Obstructs (segment :: rest) :=
  ⟨[], segment :: rest, v, rfl, by simp, rfl, h⟩

/-- What is in the way is the value at hand, or something below its part. -/
theorem obstructs_cons {v : Json} {segment : String} {rest : Path} :
    v.Obstructs (segment :: rest) ↔
      v.isObject = false ∨ ∃ below, v.child? segment = some below ∧ below.Obstructs rest := by
  constructor
  · rintro ⟨_ | ⟨first, outer⟩, inner, w, split, more, there, blocked⟩
    · cases there
      exact .inl blocked
    · obtain ⟨rfl, rfl⟩ := List.cons.inj split
      obtain ⟨below, here, there⟩ := Option.bind_eq_some_iff.1 there
      exact .inr ⟨below, here, outer, inner, w, rfl, more, there, blocked⟩
  · rintro (blocked | ⟨below, here, outer, inner, w, rfl, more, there, blocked⟩)
    · exact obstructs_of_not_isObject blocked segment rest
    · refine ⟨segment :: outer, inner, w, rfl, more, ?_, blocked⟩
      rw [getSegments?_cons, here]
      exact there

theorem not_obstructs_nil (v : Json) : ¬ v.Obstructs [] := by
  rintro ⟨outer, inner, w, split, more, -, -⟩
  exact more (List.append_eq_nil_iff.1 split.symm).2

/-- Nothing is in the way in an empty object: all that is missing can be made. -/
theorem not_obstructs_empty (path : Path) : ¬ (Json.obj []).Obstructs path := by
  rintro ⟨outer, inner, w, -, -, there, blocked⟩
  rw [getSegments?_empty there] at blocked
  cases blocked

theorem setSegments?_of_not_isObject {v : Json} (h : v.isObject = false) (value : Json)
    (path : Path) : setSegments? value path v = none := by
  cases v with
  | obj fs => cases h
  | _ =>
    cases path with
    | nil => rfl
    | cons segment rest => cases rest <;> rfl

theorem setSegments?_below (value : Json) (segment segment' : String) (rest : Path) (fs : Fields) :
    setSegments? value (segment :: segment' :: rest) (.obj fs) =
      (setSegments? value (segment' :: rest) ((Fields.get? fs segment).getD (.obj []))).map
        fun below => .obj (Fields.insert segment below fs) := by
  rw [setSegments?]
  · cases setSegments? value (segment' :: rest) ((Fields.get? fs segment).getD (.obj [])) <;> rfl
  · simp

/-- Nothing is written at a path exactly if something is in the way. -/
theorem setSegments?_eq_none_iff {value v : Json} {path : Path} (more : path ≠ []) :
    setSegments? value path v = none ↔ v.Obstructs path := by
  induction path generalizing v with
  | nil => exact absurd rfl more
  | cons segment rest ih =>
    cases object : v.isObject with
    | false =>
      exact iff_of_true (setSegments?_of_not_isObject object value _)
        (obstructs_of_not_isObject object segment rest)
    | true =>
      obtain ⟨fs, rfl⟩ := exists_fields object
      rw [obstructs_cons]
      cases rest with
      | nil => simp [setSegments?, isObject, not_obstructs_nil]
      | cons segment' rest =>
        rw [setSegments?_below, Option.map_eq_none_iff, ih (by simp)]
        cases here : Fields.get? fs segment with
        | none => simp [child?, here, isObject, not_obstructs_empty]
        | some below => simp [child?, here, isObject]

theorem setPath?_eq_none_iff {v value : Json} {path : String} :
    v.setPath? path value = none ↔ v.Obstructs (.ofString path) := by
  obtain ⟨root, rest, split⟩ := Path.exists_cons path
  exact setSegments?_eq_none_iff (by simp [split])

theorem isObject_of_setPath? {v value w : Json} {path : String}
    (h : v.setPath? path value = some w) : w.isObject = true := by
  obtain ⟨fs, gs, -, rfl⟩ := exists_obj_of_setSegments? h
  rfl

/-- A write replaces one field: by the value, or by what a write below it gives. -/
theorem setSegments?_cases {value v v' : Json} {segment : String} {rest : Path}
    (written : setSegments? value (segment :: rest) v = some v') :
    ∃ fs below, v = .obj fs ∧ v' = .obj (Fields.insert segment below fs) ∧
      (rest = [] ∨
        setSegments? value rest ((Fields.get? fs segment).getD (.obj [])) = some below) := by
  obtain ⟨fs, gs, rfl, -⟩ := exists_obj_of_setSegments? written
  cases rest with
  | nil => exact ⟨fs, value, rfl, (Option.some.inj written).symm, .inl rfl⟩
  | cons segment' rest =>
    rw [setSegments?_below] at written
    obtain ⟨below, deeper, same⟩ := Option.map_eq_some_iff.1 written
    exact ⟨fs, below, rfl, same.symm, .inr deeper⟩

/-- After a write, what is no object stands at or below its path, or stood there before. -/
theorem getSegments?_of_setSegments? {value v v' w : Json} {path at' : Path}
    (written : setSegments? value path v = some v') (there : v'.getSegments? at' = some w)
    (blocked : w.isObject = false) : path <+: at' ∨ v.getSegments? at' = some w := by
  induction path generalizing v v' at' with
  | nil => cases written
  | cons segment rest ih =>
    obtain ⟨fs, below, rfl, rfl, deeper⟩ := setSegments?_cases written
    cases at' with
    | nil =>
      cases there
      cases blocked
    | cons first more =>
      rw [getSegments?_cons, child?] at there ⊢
      by_cases same : first = segment
      · subst same
        rw [Fields.get?_insert_self] at there
        rcases deeper with rfl | deeper
        · exact .inl (List.prefix_append [first] more)
        · refine (ih deeper there).imp (fun inside => List.cons_prefix_cons.2 ⟨rfl, inside⟩) ?_
          intro before
          cases old : Fields.get? fs first with
          | none =>
            rw [old, Option.getD_none] at before
            rw [getSegments?_empty before] at blocked
            cases blocked
          | some v =>
            rw [old, Option.getD_some] at before
            exact before
      · rw [Fields.get?_insert_of_ne same] at there
        exact .inr there

end DocStore.Json
