import DocStore.Proofs.Json.Apart

/-!
# Writing in place

A write in place creates the objects that are missing on its way before it knows whether it can be
made. It still leaves nothing behind when it fails (`Json.putPath_eq`): what is in its way stood there
before, so the way down to it was there as well, and from the first missing object on nothing can be
in the way. With reading it is a lens on documents (`Json.putPath_lens`).
-/

namespace DocStore.Json

theorem putSegments_of_not_isObject {v : Json} (h : v.isObject = false) (value : Json)
    (path : Path) : putSegments value path v = (false, v) := by
  cases v with
  | obj fs => cases h
  | _ =>
    cases path with
    | nil => rfl
    | cons segment rest => cases rest <;> rfl

theorem putSegments_below (value : Json) (segment segment' : String) (rest : Path) (fs : Fields) :
    putSegments value (segment :: segment' :: rest) (.obj fs) =
      let (written, below) :=
        putSegments value (segment' :: rest) ((Fields.get? fs segment).getD (.obj []))
      (written, .obj (Fields.insert segment below fs)) := by
  rw [putSegments]
  simp

/-- A field that leads into something in the way is there already, and is put back as it was. -/
theorem insert_getD_of_obstructs {fs : Fields} {segment : String} {path : Path}
    (blocked : ((Fields.get? fs segment).getD (.obj [])).Obstructs path) :
    Fields.insert segment ((Fields.get? fs segment).getD (.obj [])) fs = fs := by
  cases here : Fields.get? fs segment with
  | none =>
    rw [here] at blocked
    exact absurd blocked (not_obstructs_empty path)
  | some below => exact Fields.insert_of_get? here

/-- **A write in place is made as a whole, or not at all.** -/
theorem putSegments_eq (value : Json) (path : Path) (v : Json) :
    putSegments value path v = match setSegments? value path v with
      | some w => (true, w)
      | none => (false, v) := by
  induction path generalizing v with
  | nil => cases v <;> rfl
  | cons segment rest ih =>
    cases object : v.isObject with
    | false =>
      rw [putSegments_of_not_isObject object, setSegments?_of_not_isObject object]
    | true =>
      obtain ⟨fs, rfl⟩ := exists_fields object
      cases rest with
      | nil => rfl
      | cons segment' rest =>
        rw [putSegments_below, setSegments?_below, ih]
        cases deeper : setSegments? value (segment' :: rest)
            ((Fields.get? fs segment).getD (.obj [])) with
        | some below => rfl
        | none =>
          have blocked := (setSegments?_eq_none_iff (List.cons_ne_nil _ _)).1 deeper
          simp only [Option.map_none, insert_getD_of_obstructs blocked]

theorem putPath_eq (v : Json) (path : String) (value : Json) :
    v.putPath path value = match v.setPath? path value with
      | some w => (true, w)
      | none => (false, v) :=
  putSegments_eq value (.ofString path) v

theorem putPath_eq_true {v w value : Json} {path : String} :
    v.putPath path value = (true, w) ↔ v.setPath? path value = some w := by
  rw [putPath_eq]
  cases v.setPath? path value <;> simp

/-- A write is refused if something is in its way, and then it changes nothing. -/
theorem putPath_eq_false {v w value : Json} {path : String} :
    v.putPath path value = (false, w) ↔ v.Obstructs (.ofString path) ∧ v = w := by
  rw [← @setPath?_eq_none_iff v value path, putPath_eq]
  cases v.setPath? path value <;> simp

section

variable {ε : Type} {blocked : String → ε} {v w value : Json} {path : String} {e : ε}

theorem writePath_eq (blocked : String → ε) (v : Json) (path : String) (value : Json) :
    v.writePath blocked path value = match v.setPath? path value with
      | some w => .ok w
      | none => .error (blocked path) := by
  rw [writePath, putPath_eq]
  cases v.setPath? path value <;> rfl

theorem writePath_eq_ok :
    v.writePath blocked path value = .ok w ↔ v.setPath? path value = some w := by
  rw [writePath_eq]
  cases v.setPath? path value <;> simp

/-- A write fails only with what is said of a path where something is in the way. -/
theorem writePath_eq_error : v.writePath blocked path value = .error e ↔
    e = blocked path ∧ v.Obstructs (.ofString path) := by
  rw [writePath_eq, ← @setPath?_eq_none_iff v value path]
  cases v.setPath? path value <;> simp [eq_comm]

end

/-- **Reading and writing at a path are a lens, and a write fails as a whole.** A write is made unless
the path leads into a value that is no object. Once it is made, the value is read at its path, and all
that was read at paths apart from it is read as before; what was there already could have been left
alone, and of two writes the second one stands. If it is not made, the document is as it was. -/
theorem putPath_lens (doc value : Json) (p : String) :
    let made := (doc.putPath p value).1
    let doc' := (doc.putPath p value).2
    (made = true ↔ ¬ doc.Obstructs (.ofString p)) ∧
      (made = true → doc'.getPath? p = some value ∧
        (∀ q, ¬ Path.ofString p <+: Path.ofString q → ¬ Path.ofString q <+: Path.ofString p →
          doc'.getPath? q = doc.getPath? q) ∧
        (doc.getPath? p = some value → doc' = doc) ∧
        ∀ other, doc'.putPath p other = doc.putPath p other) ∧
      (made = false → doc' = doc) := by
  intro made doc'
  have put : doc.putPath p value = (made, doc') := rfl
  clear_value made doc'
  cases made with
  | false =>
    obtain ⟨blocked, same⟩ := putPath_eq_false.1 put
    exact ⟨by simp [blocked], nofun, fun _ => same.symm⟩
  | true =>
    have written : setSegments? value (.ofString p) doc = some doc' := putPath_eq_true.1 put
    obtain ⟨more, free⟩ := not_obstructs_of_setSegments? written
    refine ⟨iff_of_true rfl free, fun _ => ⟨?_, ?_, ?_, ?_⟩, nofun⟩
    · exact getSegments?_setSegments?_self written
    · intro q longer shorter
      exact getSegments?_setSegments?_of_apart ⟨longer, shorter⟩ written
    · intro here
      have same := setSegments?_of_getSegments? free more here
      exact Option.some.inj (written.symm.trans same)
    · intro other
      obtain ⟨w, first⟩ := exists_setSegments? more free other
      have again : setSegments? other (.ofString p) doc' = some w :=
        (setSegments?_setSegments? written other).trans first
      exact (putPath_eq_true.2 again).trans (putPath_eq_true.2 first).symm

/-- Below objects that are missing, with an empty segment among them, and where an array is in the way
after one that is there: an index is read, and not written. -/
theorem putPath_lens_nested :
    let doc : Json := .obj [("a", .obj [("b", .arr [.int 10, .int 20])])]
    let made : Json := .obj [("a", .obj [("b", .arr [.int 10, .int 20]),
      ("", .obj [("d", .int 1)])])]
    doc.putPath "a..d" (.int 1) = (true, made) ∧ made.getPath? "a..d" = some (.int 1) ∧
      made.getPath? "a.b.1" = doc.getPath? "a.b.1" ∧
      doc.putPath "a.b.1" (.int 1) = (false, doc) := by
  intro doc made
  have put : doc.putPath "a..d" (.int 1) = (true, made) := by rfl
  have refused : (doc.putPath "a.b.1" (.int 1)).1 = false := by rfl
  obtain ⟨read, apart, -⟩ := (putPath_lens doc (.int 1) "a..d").2.1 (congrArg Prod.fst put)
  rw [put] at read apart
  refine ⟨put, read, apart "a.b.1" (by decide) (by decide), ?_⟩
  exact Prod.ext refused ((putPath_lens doc (.int 1) "a.b.1").2.2 refused)

end DocStore.Json
