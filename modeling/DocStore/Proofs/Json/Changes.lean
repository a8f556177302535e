import DocStore.Proofs.Json.Places

/-!
# Writing and removing, place by place

After a value was written at a path, it stands there, the way to it leads over objects, and all other
places show what they showed (`Json.view_setSegments?`). After a path was removed, the places at and
below the field that it leads to show nothing, and all others what they showed
(`Json.view_removeSegments`, `Json.removes_iff`).
-/

namespace DocStore

namespace Json

section

variable {v v' w w' value : Json} {p q : Path} {π : Place}

/-! ## Writing -/

/-- What a value shows with another one in it, at a place over objects. -/
def graft (p : Place) (g f : Place → Option Shape) (π : Place) : Option Shape :=
  if p <+: π then g (π.drop p.length) else if π <+: p then some .object else f π

theorem graft_cons_self (s : Step) (p : Place) (g f : Place → Option Shape) (π : Place) :
    graft (s :: p) g f (s :: π) = graft p g (fun π => f (s :: π)) π := by
  simp [graft, List.cons_prefix_cons]

theorem graft_cons_of_ne {s t : Step} (h : s ≠ t) (p : Place) (g f : Place → Option Shape)
    (π : Place) : graft (s :: p) g f (t :: π) = f (t :: π) := by
  simp [graft, List.cons_prefix_cons, h, h.symm]

/-- A graft looks at the tree below it at the asked place only. -/
theorem graft_eq {p : Place} {g f f' : Place → Option Shape} (h : f π = f' π) :
    graft p g f π = graft p g f' π := by
  rw [graft, graft, h]

/-- What the value shows at its root makes no difference. -/
theorem graft_congr {p : Place} {g f f' : Place → Option Shape} (h : ∀ π ≠ [], f π = f' π)
    (π : Place) : graft p g f π = graft p g f' π := by
  unfold graft
  split
  · rfl
  · split
    · rfl
    · apply h
      rintro rfl
      exact absurd List.nil_prefix ‹_›

/-- A write replaces one field: by the value, or by what a write below it gives. -/
theorem setSegments?_field {segment : String} {rest : Path}
    (written : setSegments? value (segment :: rest) v = some v') :
    ∃ fs below, v = .obj fs ∧ v' = .obj (Fields.insert segment below fs) ∧
      (rest = [] ∧ below = value ∨
        setSegments? value rest ((Fields.get? fs segment).getD (.obj [])) = some below) := by
  obtain ⟨fs, below, rfl, rfl, rfl | deeper⟩ := setSegments?_cases written
  · exact ⟨fs, value, rfl, (Option.some.inj written).symm, .inl ⟨rfl, rfl⟩⟩
  · exact ⟨fs, below, rfl, rfl, .inr deeper⟩

/-- What stands below a field, or an empty object if there is no such field. -/
theorem view_getD {fs : Fields} {segment : String} (h : π ≠ []) :
    ((Fields.get? fs segment).getD (.obj [])).view π = (Json.obj fs).view (.key segment :: π) := by
  show _ = ((Fields.get? fs segment).bind fun w => w.view π)
  cases Fields.get? fs segment with
  | none => exact view_empty h
  | some below => rfl

/-- **What a value shows after a write.** -/
theorem view_setSegments? (written : setSegments? value p v = some v') (π : Place) :
    v'.view π = graft p.place value.view v.view π := by
  induction p generalizing v v' π with
  | nil => cases written
  | cons segment rest ih =>
    obtain ⟨fs, below, rfl, rfl, deeper⟩ := setSegments?_field written
    cases π with
    | nil => simp [graft, Path.place, view, shape]
    | cons s π =>
      by_cases same : Step.key segment = s
      · subst same
        have here : (Json.obj (Fields.insert segment below fs)).view (.key segment :: π) =
            below.view π := by
          show ((Fields.get? (Fields.insert segment below fs) segment).bind fun w => w.view π) = _
          rw [Fields.get?_insert_self]
          rfl
        rw [here]
        show _ = graft (.key segment :: Path.place rest) value.view _ (.key segment :: π)
        rw [graft_cons_self]
        rcases deeper with ⟨rfl, rfl⟩ | deeper
        · simp [graft, Path.place]
        · rw [ih deeper]
          exact graft_congr (fun _ => view_getD) π
      · show _ = graft (.key segment :: Path.place rest) value.view _ (s :: π)
        rw [graft_cons_of_ne same]
        cases s with
        | index i => rfl
        | key k =>
          have other : k ≠ segment := fun e => same (congrArg Step.key e.symm)
          show ((Fields.get? (Fields.insert segment below fs) k).bind fun w => w.view π) = _
          rw [Fields.get?_insert_of_ne other]
          rfl

/-! ## Removing -/

theorem removes_leaf (fs : Fields) (leaf k : String) (π : Place) :
    removes (.obj fs) [leaf] (.key k :: π) = (k == leaf) := rfl

/-- A path goes down a field by its key. -/
theorem removes_below (fs : Fields) (segment : String) {rest : Path} (more : rest ≠ []) (k : String)
    (π : Place) : removes (.obj fs) (segment :: rest) (.key k :: π) =
      (k == segment && removes ((Fields.get? fs segment).getD (.obj [])) rest π) := by
  cases rest with
  | nil => exact absurd rfl more
  | cons => rfl

/-- A path goes down an item by its index, and takes no item out. -/
theorem removes_item (xs : List Json) (segment : String) (rest : Path) (i : Nat) (π : Place) :
    removes (.arr xs) (segment :: rest) (.index i :: π) =
      (indexOf? segment == some i && (xs[i]?).any fun below => removes below rest π) := by
  cases rest <;> rfl

theorem removes_nil (v : Json) (π : Place) : removes v [] π = false := by
  cases v <;> rfl

theorem removes_of_isScalar (h : v.isScalar = true) (p : Path) (π : Place) :
    removes v p π = false := by
  cases v with
  | arr xs => cases h
  | obj fs => cases h
  | _ =>
    cases p with
    | nil => rfl
    | cons segment rest => cases rest <;> rfl

/-- The value itself is never removed. -/
theorem removes_root (v : Json) (p : Path) : removes v p [] = false := by
  cases v <;> first
    | exact removes_of_isScalar rfl p []
    | (cases p with
      | nil => rfl
      | cons segment rest => cases rest <;> rfl)

theorem removes_index (fs : Fields) (p : Path) (i : Nat) (π : Place) :
    removes (.obj fs) p (.index i :: π) = false := by
  cases p with
  | nil => rfl
  | cons segment rest => cases rest <;> rfl

theorem removes_key (xs : List Json) (p : Path) (k : String) (π : Place) :
    removes (.arr xs) p (.key k :: π) = false := by
  cases p with
  | nil => rfl
  | cons segment rest => cases rest <;> rfl

theorem removeSegments_nil (v : Json) : removeSegments [] v = v := by
  cases v <;> rfl

/-- The fields that a removal leaves: one is gone, or something below it is. -/
theorem removeSegments_fields {fs : Fields} (distinct : (Fields.keys fs).Nodup) (segment : String)
    (rest : Path) :
    ∃ gs, removeSegments (segment :: rest) (.obj fs) = .obj gs ∧
      (∀ k, k ≠ segment → Fields.get? gs k = Fields.get? fs k) ∧
      Fields.get? gs segment =
        if rest = [] then none else (Fields.get? fs segment).map (removeSegments rest) := by
  by_cases last : rest = []
  · subst last
    refine ⟨_, rfl, fun k other => Fields.get?_erase_of_ne distinct other, ?_⟩
    rw [if_pos rfl]
    exact Fields.get?_erase_self distinct segment
  · rw [if_neg last, removeSegments]
    · cases here : Fields.get? fs segment with
      | none => exact ⟨fs, rfl, fun _ _ => rfl, here⟩
      | some below =>
        refine ⟨_, rfl, fun k other => Fields.get?_insert_of_ne other _ fs, ?_⟩
        exact Fields.get?_insert_self ..
    · exact last

/-- The items that a removal leaves: something may be gone below one. -/
theorem removeSegments_items (segment : String) (rest : Path) (xs : List Json) :
    ∃ ys : List Json, removeSegments (segment :: rest) (.arr xs) = .arr ys ∧ ∀ j : Nat,
      ys[j]? = if indexOf? segment = some j then (xs[j]?).map (removeSegments rest) else xs[j]? := by
  cases rest with
  | nil =>
    refine ⟨xs, rfl, fun j => ?_⟩
    have same : removeSegments [] = id := funext removeSegments_nil
    rw [same, Option.map_id, id, ite_self]
  | cons segment' rest =>
    cases index : indexOf? segment with
    | none =>
      refine ⟨xs, by simp only [removeSegments, index], fun j => ?_⟩
      rw [if_neg (Option.some_ne_none j).symm]
    | some i =>
      cases here : xs[i]? with
      | none =>
        refine ⟨xs, by simp only [removeSegments, index, here], fun j => ?_⟩
        split
        · rename_i same
          obtain rfl := Option.some.inj same
          rw [here]
          rfl
        · rfl
      | some below =>
        refine ⟨_, by simp only [removeSegments, index, here]; rfl, fun j => ?_⟩
        by_cases same : i = j
        · subst same
          have inside : i < xs.length := (List.getElem?_eq_some_iff.1 here).1
          rw [List.getElem?_set_self inside, if_pos rfl, here]
          rfl
        · rw [List.getElem?_set_ne same, if_neg fun e => same (Option.some.inj e)]

theorem view_field (fs : Fields) (k : String) (π : Place) :
    (Json.obj fs).view (.key k :: π) = (Fields.get? fs k).bind fun w => w.view π := rfl

theorem view_item (xs : List Json) (i : Nat) (π : Place) :
    (Json.arr xs).view (.index i :: π) = (xs[i]?).bind fun w => w.view π := rfl

/-- **What a value shows after a removal.** -/
theorem view_removeSegments (wf : v.WellFormed) (p : Path) (π : Place) :
    (removeSegments p v).view π = if removes v p π then none else v.view π := by
  induction p generalizing v π with
  | nil => rw [removes_nil, removeSegments_nil, if_neg Bool.false_ne_true]
  | cons segment rest ih =>
    cases v with
    | obj fs =>
      obtain ⟨gs, removed, others, here⟩ := removeSegments_fields wf.nodup_keys segment rest
      rw [removed]
      match π with
      | [] => rw [removes_root, if_neg Bool.false_ne_true]; rfl
      | .index i :: π => rw [removes_index, if_neg Bool.false_ne_true]; rfl
      | .key k :: π =>
        rw [view_field, view_field]
        by_cases same : k = segment
        · subst same
          rw [here]
          by_cases last : rest = []
          · rw [if_pos last, last, removes_leaf, BEq.rfl, if_pos rfl, Option.bind_none]
          · rw [if_neg last, removes_below fs k last, BEq.rfl, Bool.true_and]
            cases found : Fields.get? fs k with
            | none => simp
            | some below => exact ih (wf.of_get? found) π
        · have kept : removes (.obj fs) (segment :: rest) (.key k :: π) = false := by
            by_cases last : rest = []
            · rw [last, removes_leaf, beq_false_of_ne same]
            · rw [removes_below fs segment last, beq_false_of_ne same, Bool.false_and]
          rw [others k same, kept, if_neg Bool.false_ne_true]
    | arr xs =>
      obtain ⟨ys, removed, items⟩ := removeSegments_items segment rest xs
      rw [removed]
      match π with
      | [] => rw [removes_root, if_neg Bool.false_ne_true]; rfl
      | .key k :: π => rw [removes_key, if_neg Bool.false_ne_true]; rfl
      | .index j :: π =>
        rw [view_item, view_item, items j, removes_item]
        by_cases same : indexOf? segment = some j
        · rw [if_pos same, beq_iff_eq.2 same, Bool.true_and]
          cases found : xs[j]? with
          | none => simp
          | some below => exact ih (wf.items below (List.mem_of_getElem? found)) π
        · rw [if_neg same, beq_false_of_ne same, Bool.false_and, if_neg Bool.false_ne_true]
    | _ => rw [removeSegments_of_isScalar rfl, removes_of_isScalar rfl, if_neg Bool.false_ne_true]

/-- The place of a field below a field. -/
theorem fieldPlace?_below (fs : Fields) (segment : String) {rest : Path} (more : rest ≠ []) :
    (Json.obj fs).fieldPlace? (segment :: rest) = (Fields.get? fs segment).bind fun below =>
      (below.fieldPlace? rest).map (.key segment :: ·) := by
  cases rest with
  | nil => exact absurd rfl more
  | cons => rfl

theorem fieldPlace?_item (xs : List Json) (segment : String) (rest : Path) :
    (Json.arr xs).fieldPlace? (segment :: rest) = (indexOf? segment).bind fun i =>
      (xs[i]?).bind fun below => (below.fieldPlace? rest).map (.index i :: ·) := by
  cases rest <;> rfl

theorem fieldPlace?_nil (v : Json) : v.fieldPlace? [] = none := by
  cases v <;> rfl

theorem fieldPlace?_of_isScalar (h : v.isScalar = true) (p : Path) : v.fieldPlace? p = none := by
  cases v with
  | arr xs => cases h
  | obj fs => cases h
  | _ =>
    cases p with
    | nil => rfl
    | cons segment rest => cases rest <;> rfl

theorem not_fieldPlace?_root (v : Json) (p : Path) : v.fieldPlace? p ≠ some [] := by
  intro here
  cases p with
  | nil => rw [fieldPlace?_nil] at here; cases here
  | cons segment rest =>
    cases v with
    | obj fs =>
      by_cases last : rest = []
      · subst last
        obtain ⟨_, _, same⟩ := Option.map_eq_some_iff.1 here
        cases same
      · rw [fieldPlace?_below fs segment last] at here
        obtain ⟨below, -, there⟩ := Option.bind_eq_some_iff.1 here
        obtain ⟨_, _, same⟩ := Option.map_eq_some_iff.1 there
        cases same
    | arr xs =>
      rw [fieldPlace?_item] at here
      obtain ⟨i, -, there⟩ := Option.bind_eq_some_iff.1 here
      obtain ⟨below, -, there⟩ := Option.bind_eq_some_iff.1 there
      obtain ⟨_, _, same⟩ := Option.map_eq_some_iff.1 there
      cases same
    | _ => rw [fieldPlace?_of_isScalar rfl] at here; cases here

/-- What goes with a path is what is at or below the field that it leads to. -/
theorem removes_iff (there : v.view π ≠ none) (p : Path) :
    removes v p π = true ↔ ∃ σ, v.fieldPlace? p = some σ ∧ σ <+: π := by
  induction p generalizing v π with
  | nil => simp [removes_nil, fieldPlace?_nil]
  | cons segment rest ih =>
    cases π with
    | nil =>
      rw [removes_root]
      refine iff_of_false nofun ?_
      rintro ⟨σ, here, inside⟩
      obtain rfl := List.prefix_nil.1 inside
      exact not_fieldPlace?_root v _ here
    | cons s π =>
      cases v with
      | obj fs =>
        cases s with
        | index i => exact absurd rfl there
        | key k =>
          rw [view_field] at there
          obtain ⟨w, found⟩ : ∃ w, Fields.get? fs k = some w := by
            cases found : Fields.get? fs k with
            | none => rw [found] at there; exact absurd rfl there
            | some w => exact ⟨w, rfl⟩
          rw [found, Option.bind_some] at there
          by_cases last : rest = []
          · subst last
            rw [removes_leaf, beq_iff_eq]
            constructor
            · rintro rfl
              refine ⟨[.key k], ?_, List.prefix_append [_] π⟩
              exact Option.map_eq_some_iff.2 ⟨w, found, rfl⟩
            · rintro ⟨σ, here, inside⟩
              obtain ⟨-, -, rfl⟩ := Option.map_eq_some_iff.1 here
              exact (Step.key.inj (List.cons_prefix_cons.1 inside).1).symm
          · rw [removes_below fs segment last, fieldPlace?_below fs segment last, Bool.and_eq_true,
              beq_iff_eq]
            constructor
            · rintro ⟨rfl, gone⟩
              rw [found, Option.getD_some, ih there] at gone
              obtain ⟨σ, here, inside⟩ := gone
              refine ⟨.key k :: σ, ?_, List.cons_prefix_cons.2 ⟨rfl, inside⟩⟩
              rw [found, Option.bind_some, here, Option.map_some]
            · rintro ⟨σ, here, inside⟩
              obtain ⟨below, found', placed⟩ := Option.bind_eq_some_iff.1 here
              obtain ⟨τ, deeper, rfl⟩ := Option.map_eq_some_iff.1 placed
              obtain ⟨same, further⟩ := List.cons_prefix_cons.1 inside
              obtain rfl := Step.key.inj same
              obtain rfl : w = below := Option.some.inj (found.symm.trans found')
              rw [found, Option.getD_some, ih there]
              exact ⟨rfl, τ, deeper, further⟩
      | arr xs =>
        cases s with
        | key k => exact absurd rfl there
        | index i =>
          rw [view_item] at there
          obtain ⟨w, found⟩ : ∃ w, xs[i]? = some w := by
            cases found : xs[i]? with
            | none => rw [found] at there; exact absurd rfl there
            | some w => exact ⟨w, rfl⟩
          rw [found, Option.bind_some] at there
          rw [removes_item, fieldPlace?_item, found, Option.any_some, Bool.and_eq_true, beq_iff_eq,
            ih there]
          constructor
          · rintro ⟨index, σ, here, inside⟩
            refine ⟨.index i :: σ, ?_, List.cons_prefix_cons.2 ⟨rfl, inside⟩⟩
            rw [index, Option.bind_some, found, Option.bind_some, here, Option.map_some]
          · rintro ⟨σ, here, inside⟩
            obtain ⟨j, index, listed⟩ := Option.bind_eq_some_iff.1 here
            obtain ⟨below, found', placed⟩ := Option.bind_eq_some_iff.1 listed
            obtain ⟨τ, deeper, rfl⟩ := Option.map_eq_some_iff.1 placed
            obtain ⟨same, further⟩ := List.cons_prefix_cons.1 inside
            obtain rfl := Step.index.inj same
            obtain rfl : w = below := Option.some.inj (found.symm.trans found')
            exact ⟨index, τ, deeper, further⟩
      | _ =>
        rw [removes_of_isScalar rfl, fieldPlace?_of_isScalar rfl]
        exact iff_of_false nofun nofun

/-! ## Well-formed results -/

/-- A write makes no key twice. -/
theorem WellFormed.setSegments? (wf : v.WellFormed) (given : value.WellFormed)
    (written : setSegments? value p v = some v') : v'.WellFormed := by
  induction p generalizing v v' with
  | nil => cases written
  | cons segment rest ih =>
    obtain ⟨fs, below, rfl, rfl, deeper⟩ := setSegments?_field written
    have below_wf : below.WellFormed := by
      rcases deeper with ⟨rfl, rfl⟩ | deeper
      · exact given
      · apply ih _ deeper
        cases here : Fields.get? fs segment with
        | none => exact .obj List.nodup_nil fun _ mem => absurd mem List.not_mem_nil
        | some old => exact wf.of_get? here
    apply WellFormed.obj (Fields.nodup_keys_insert wf.nodup_keys _ _)
    intro f mem
    rcases Fields.mem_insert mem with rfl | mem
    · exact below_wf
    · exact wf.values f mem

theorem WellFormed.removeSegments (wf : v.WellFormed) (p : Path) :
    (Json.removeSegments p v).WellFormed := by
  induction p generalizing v with
  | nil =>
    rw [removeSegments_nil]
    exact wf
  | cons segment rest ih =>
    cases v with
    | obj fs =>
      have distinct := wf.nodup_keys
      by_cases last : rest = []
      · subst last
        apply WellFormed.obj (Fields.nodup_keys_erase distinct segment)
        intro f mem
        exact wf.values f (List.mem_filter.1 ((Fields.erase_perm distinct segment).subset mem)).1
      · rw [Json.removeSegments]
        · cases here : Fields.get? fs segment with
          | none => exact wf
          | some below =>
            apply WellFormed.obj (Fields.nodup_keys_insert distinct _ _)
            intro f mem
            rcases Fields.mem_insert mem with rfl | mem
            · exact ih (wf.of_get? here)
            · exact wf.values f mem
        · exact last
    | arr xs =>
      obtain ⟨ys, removed, items⟩ := removeSegments_items segment rest xs
      rw [removed]
      apply WellFormed.arr
      intro y mem
      obtain ⟨j, there⟩ := List.mem_iff_getElem?.1 mem
      rw [items j] at there
      split at there
      · obtain ⟨below, here, rfl⟩ := Option.map_eq_some_iff.1 there
        exact ih (wf.items below (List.mem_of_getElem? here))
      · exact wf.items y (List.mem_of_getElem? there)
    | _ =>
      rw [removeSegments_of_isScalar rfl]
      exact wf

/-! ## The same change to values that differ in the order of keys -/

theorem Reordered.child? (h : v.Reordered w) (segment : String) :
    v.child? segment = none ∧ w.child? segment = none ∨
      ∃ a b, v.child? segment = some a ∧ w.child? segment = some b ∧ a.Reordered b := by
  cases v with
  | obj fs =>
    obtain ⟨gs, rfl, parts⟩ := h.exists_fields
    exact parts segment
  | arr xs =>
    obtain ⟨ys, rfl, parts⟩ := h.exists_items
    unfold Json.child?
    cases indexOf? segment with
    | none => exact .inl ⟨rfl, rfl⟩
    | some i => exact parts i
  | _ =>
    rw [h.eq_of_isScalar rfl]
    exact .inl ⟨rfl, rfl⟩

/-- What is in the way does not depend on the order of fields. -/
theorem Reordered.obstructs_iff (h : v.Reordered w) (p : Path) : v.Obstructs p ↔ w.Obstructs p := by
  induction p generalizing v w with
  | nil => exact iff_of_false (not_obstructs_nil v) (not_obstructs_nil w)
  | cons segment rest ih =>
    rw [obstructs_cons, obstructs_cons, h.isObject]
    rcases h.child? segment with ⟨none, none'⟩ | ⟨a, b, here, here', below⟩
    · rw [none, none']
    · rw [here, here']
      simp only [Option.some.injEq, exists_eq_left', ih below]

/-- A field that is written, or an empty object in its place, shows the same. -/
theorem Reordered.getD {fs gs : Fields} {segment : String}
    (h : Fields.get? fs segment = none ∧ Fields.get? gs segment = none ∨
      ∃ a b, Fields.get? fs segment = some a ∧ Fields.get? gs segment = some b ∧ a.Reordered b) :
    ((Fields.get? fs segment).getD (.obj [])).Reordered
      ((Fields.get? gs segment).getD (.obj [])) := by
  rcases h with ⟨none, none'⟩ | ⟨a, b, here, here', below⟩
  · rw [none, none']
    exact .refl _
  · rw [here, here']
    exact below

theorem Reordered.removes_eq (h : v.Reordered w) (p : Path) (π : Place) :
    removes v p π = removes w p π := by
  induction p generalizing v w π with
  | nil => rw [removes_nil, removes_nil]
  | cons segment rest ih =>
    cases π with
    | nil => rw [removes_root, removes_root]
    | cons s π =>
      cases v with
      | obj fs =>
        obtain ⟨gs, rfl, parts⟩ := h.exists_fields
        cases s with
        | index i => rw [removes_index, removes_index]
        | key k =>
          by_cases last : rest = []
          · rw [last, removes_leaf, removes_leaf]
          · rw [removes_below fs segment last, removes_below gs segment last, ih (.getD (parts segment))]
      | arr xs =>
        obtain ⟨ys, rfl, parts⟩ := h.exists_items
        cases s with
        | key k => rw [removes_key, removes_key]
        | index i =>
          rw [removes_item, removes_item]
          rcases parts i with ⟨none, none'⟩ | ⟨a, b, here, here', below⟩
          · rw [none, none']
          · rw [here, here', Option.any_some, Option.any_some, ih below]
      | _ => rw [h.eq_of_isScalar rfl]

/-- Where nothing is in the way a write is made. -/
theorem exists_setSegments? (more : p ≠ []) (free : ¬ v.Obstructs p) (value : Json) :
    ∃ v', setSegments? value p v = some v' := by
  cases written : setSegments? value p v with
  | none => exact absurd ((setSegments?_eq_none_iff more).1 written) free
  | some v' => exact ⟨v', rfl⟩

theorem not_obstructs_of_setSegments? (written : setSegments? value p v = some v') :
    p ≠ [] ∧ ¬ v.Obstructs p := by
  have more : p ≠ [] := by
    rintro rfl
    cases written
  constructor
  · exact more
  · intro blocked
    rw [(setSegments?_eq_none_iff more).2 blocked] at written
    cases written

/-- A write into reordered fields gives reordered fields. -/
theorem Reordered.setSegments? (h : v.Reordered w)
    (written : Json.setSegments? value p v = some v') :
    ∃ w', Json.setSegments? value p w = some w' ∧ v'.Reordered w' := by
  obtain ⟨more, free⟩ := not_obstructs_of_setSegments? written
  rw [h.obstructs_iff] at free
  obtain ⟨w', written'⟩ := exists_setSegments? more free value
  refine ⟨w', written', fun π => ?_⟩
  rw [view_setSegments? written, view_setSegments? written']
  exact graft_eq (h π)

theorem Reordered.removeSegments (h : v.Reordered w) (wf : v.WellFormed) (wf' : w.WellFormed)
    (p : Path) : (Json.removeSegments p v).Reordered (Json.removeSegments p w) := by
  intro π
  rw [view_removeSegments wf, view_removeSegments wf', h.removes_eq, h π]

/-! ## One step down -/

theorem child?_fields (fs : Fields) (segment : String) :
    (Json.obj fs).child? segment = Fields.get? fs segment := rfl

/-- A path below a field, or below the empty object in its place. -/
theorem obstructs_field (fs : Fields) (segment : String) (rest : Path) :
    (Json.obj fs).Obstructs (segment :: rest) ↔
      ((Fields.get? fs segment).getD (.obj [])).Obstructs rest := by
  rw [obstructs_cons, child?_fields]
  cases Fields.get? fs segment with
  | none => simp [isObject, not_obstructs_empty]
  | some below => simp [isObject]

theorem getSegments?_field (fs : Fields) (segment : String) {rest : Path} (more : rest ≠ []) :
    (Json.obj fs).getSegments? (segment :: rest) =
      ((Fields.get? fs segment).getD (.obj [])).getSegments? rest := by
  rw [getSegments?_cons, child?_fields]
  cases Fields.get? fs segment with
  | none =>
    cases rest with
    | nil => exact absurd rfl more
    | cons => rfl
  | some below => rfl

/-! ## What is read after a removal -/

/-- One step down the path that is removed. -/
theorem child?_removeSegments_self (wf : v.WellFormed) (segment : String) (rest : Path) :
    (removeSegments (segment :: rest) v).child? segment =
      if v.isObject = true ∧ rest = [] then none
      else (v.child? segment).map (removeSegments rest) := by
  cases v with
  | obj fs =>
    obtain ⟨gs, removed, -, here⟩ := removeSegments_fields wf.nodup_keys segment rest
    rw [removed, child?_fields, child?_fields, here]
    simp [isObject]
  | arr xs =>
    obtain ⟨ys, removed, items⟩ := removeSegments_items segment rest xs
    rw [removed, if_neg (by simp [isObject])]
    show (indexOf? segment).bind (ys[·]?) = ((indexOf? segment).bind (xs[·]?)).map _
    cases index : indexOf? segment with
    | none => rfl
    | some i => rw [Option.bind_some, Option.bind_some, items i, if_pos index]
  | _ =>
    rw [removeSegments_of_isScalar rfl, if_neg (by simp [isObject])]
    rfl

/-- What is one step down after a removal was there before, whole or with something below it. -/
theorem child?_of_removeSegments (wf : v.WellFormed) {segment : String}
    (there : (removeSegments p v).child? segment = some w) :
    ∃ below rest, v.child? segment = some below ∧ w = removeSegments rest below := by
  cases p with
  | nil =>
    rw [removeSegments_nil] at there
    exact ⟨w, [], there, (removeSegments_nil w).symm⟩
  | cons first rest =>
    cases v with
    | obj fs =>
      by_cases same : segment = first
      · subst same
        rw [child?_removeSegments_self wf] at there
        split at there
        · cases there
        · obtain ⟨below, found, rfl⟩ := Option.map_eq_some_iff.1 there
          exact ⟨below, rest, found, rfl⟩
      · obtain ⟨gs, removed, others, -⟩ := removeSegments_fields wf.nodup_keys first rest
        rw [removed, child?_fields, others segment same] at there
        exact ⟨w, [], there, (removeSegments_nil w).symm⟩
    | arr xs =>
      obtain ⟨ys, removed, items⟩ := removeSegments_items first rest xs
      rw [removed] at there
      obtain ⟨i, index, there⟩ := Option.bind_eq_some_iff.1 there
      have before (x : Json) (h : xs[i]? = some x) : (Json.arr xs).child? segment = some x :=
        Option.bind_eq_some_iff.2 ⟨i, index, h⟩
      rw [items i] at there
      split at there
      · obtain ⟨below, found, rfl⟩ := Option.map_eq_some_iff.1 there
        exact ⟨below, rest, before below found, rfl⟩
      · exact ⟨w, [], before w there, (removeSegments_nil w).symm⟩
    | _ => rw [removeSegments_of_isScalar rfl] at there; cases there

/-- A removal does not change what kind of value it is made in. -/
theorem shape_removeSegments (p : Path) (v : Json) : (removeSegments p v).shape = v.shape := by
  cases p with
  | nil => rw [removeSegments_nil]
  | cons segment rest =>
    cases v with
    | obj fs =>
      obtain ⟨gs, removed⟩ := removeSegments_obj (segment :: rest) fs
      rw [removed]
      rfl
    | arr xs =>
      obtain ⟨ys, removed, -⟩ := removeSegments_items segment rest xs
      rw [removed]
      rfl
    | _ => rw [removeSegments_of_isScalar rfl]

/-- What is read after a removal was there before, and was of the same kind. -/
theorem getSegments?_of_removeSegments (wf : v.WellFormed)
    (there : (removeSegments p v).getSegments? q = some w) :
    ∃ w', v.getSegments? q = some w' ∧ w'.shape = w.shape := by
  induction q generalizing v p with
  | nil =>
    obtain rfl : removeSegments p v = w := Option.some.inj there
    exact ⟨v, rfl, (shape_removeSegments p v).symm⟩
  | cons segment q ih =>
    obtain ⟨next, here, there⟩ := Option.bind_eq_some_iff.1 there
    obtain ⟨below, rest, found, rfl⟩ := child?_of_removeSegments wf here
    obtain ⟨w', before, same⟩ := ih (wf.child? found) there
    refine ⟨w', ?_, same⟩
    rw [getSegments?_cons, found]
    exact before

theorem leadsToItem_of_removeSegments (wf : v.WellFormed)
    (h : (removeSegments p v).LeadsToItem q) : v.LeadsToItem q := by
  obtain ⟨outer, leaf, xs, split, there⟩ := h
  obtain ⟨w, before, same⟩ := getSegments?_of_removeSegments wf there
  cases w with
  | arr ys => exact ⟨outer, leaf, ys, split, before⟩
  | _ => cases same

/-- Where something is read at a path after its removal, it is an item of an array. -/
theorem leadsToItem_of_removed (wf : v.WellFormed) (more : p ≠ [])
    (there : (removeSegments p v).getSegments? p = some w) : v.LeadsToItem p := by
  induction p generalizing v with
  | nil => exact absurd rfl more
  | cons segment rest ih =>
    obtain ⟨next, here, there⟩ := Option.bind_eq_some_iff.1 there
    rw [child?_removeSegments_self wf] at here
    split at here
    · cases here
    · rename_i kept
      obtain ⟨below, found, rfl⟩ := Option.map_eq_some_iff.1 here
      by_cases last : rest = []
      · subst last
        cases v with
        | obj fs => exact absurd ⟨rfl, rfl⟩ kept
        | arr xs => exact ⟨[], segment, xs, rfl, rfl⟩
        | _ => cases found
      · obtain ⟨outer, leaf, xs, rfl, item⟩ := ih (wf.child? found) last there
        refine ⟨segment :: outer, leaf, xs, rfl, ?_⟩
        rw [getSegments?_cons, found]
        exact item

end

end Json

end DocStore
