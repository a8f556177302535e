import DocStore.Proofs.Json.Changes

/-!
# Paths that are apart

What is written or removed at one path leaves what is read at another, and what is in the way there, if
neither path leads through the other. So the order does not matter (`Json.setSegments?_comm`,
`Json.setSegments?_removeSegments_comm`, `Json.removeSegments_comm`), and what was done need not be done
again (`Json.setSegments?_again`, `Json.removeSegments_again`).
-/

namespace DocStore

/-- Neither of two paths leads through the other. -/
def Path.Apart (p q : Path) : Prop := ¬ p <+: q ∧ ¬ q <+: p

instance (p q : Path) : Decidable (p.Apart q) :=
  inferInstanceAs (Decidable (¬ p <+: q ∧ ¬ q <+: p))

theorem Path.Apart.symm {p q : Path} (h : p.Apart q) : q.Apart p := ⟨h.2, h.1⟩

theorem Path.Apart.of_cons {segment : String} {p q : Path}
    (h : Path.Apart (segment :: p) (segment :: q)) : Path.Apart p q := by
  simpa [Path.Apart] using h

theorem Path.Apart.ne_nil {segment : String} {p q : Path}
    (h : Path.Apart (segment :: p) (segment :: q)) : p ≠ [] ∧ q ≠ [] := by
  constructor
  · rintro rfl
    exact h.of_cons.1 (List.nil_prefix)
  · rintro rfl
    exact h.of_cons.2 (List.nil_prefix)

namespace Json

section

variable {v v' w value value' : Json} {p q : Path} {π : Place}

/-! ## What a change leaves to others -/

/-- A write at a path that is apart puts nothing in the way, and takes nothing out of it. -/
theorem obstructs_setSegments? (apart : p.Apart q) (written : setSegments? value p v = some v') :
    v'.Obstructs q ↔ v.Obstructs q := by
  induction p generalizing v v' q with
  | nil => cases written
  | cons segment rest ih =>
    obtain ⟨fs, below, rfl, rfl, deeper⟩ := setSegments?_field written
    cases q with
    | nil => exact absurd List.nil_prefix apart.2
    | cons first more =>
      rw [obstructs_field, obstructs_field]
      by_cases same : first = segment
      · subst same
        rw [Fields.get?_insert_self, Option.getD_some]
        rcases deeper with ⟨rfl, -⟩ | deeper
        · exact absurd rfl apart.ne_nil.1
        · exact ih apart.of_cons deeper
      · rw [Fields.get?_insert_of_ne same]

theorem getSegments?_setSegments?_of_apart (apart : p.Apart q)
    (written : setSegments? value p v = some v') : v'.getSegments? q = v.getSegments? q := by
  induction p generalizing v v' q with
  | nil => cases written
  | cons segment rest ih =>
    obtain ⟨fs, below, rfl, rfl, deeper⟩ := setSegments?_field written
    cases q with
    | nil => exact absurd List.nil_prefix apart.2
    | cons first more =>
      by_cases same : first = segment
      · subst same
        obtain ⟨here, there⟩ := apart.ne_nil
        rw [getSegments?_field _ _ there, getSegments?_field _ _ there, Fields.get?_insert_self,
          Option.getD_some]
        rcases deeper with ⟨rfl, -⟩ | deeper
        · exact absurd rfl here
        · exact ih apart.of_cons deeper
      · rw [getSegments?_cons, getSegments?_cons, child?_fields, child?_fields,
          Fields.get?_insert_of_ne same]

/-- What is written at a path is read there. -/
theorem getSegments?_setSegments?_self (written : setSegments? value p v = some v') :
    v'.getSegments? p = some value := by
  induction p generalizing v v' with
  | nil => cases written
  | cons segment rest ih =>
    obtain ⟨fs, below, rfl, rfl, deeper⟩ := setSegments?_field written
    rw [getSegments?_cons, child?_fields, Fields.get?_insert_self, Option.bind_some]
    rcases deeper with ⟨rfl, rfl⟩ | deeper
    · rfl
    · exact ih deeper

/-- To write what is there changes nothing. -/
theorem setSegments?_of_getSegments? (free : ¬ v.Obstructs p) (more : p ≠ [])
    (here : v.getSegments? p = some value) : setSegments? value p v = some v := by
  induction p generalizing v with
  | nil => exact absurd rfl more
  | cons segment rest ih =>
    rw [obstructs_cons] at free
    obtain ⟨object, below⟩ := not_or.1 free
    obtain ⟨fs, rfl⟩ := exists_fields (by simpa using object)
    rw [getSegments?_cons, child?_fields] at here
    obtain ⟨w, found, here⟩ := Option.bind_eq_some_iff.1 here
    cases rest with
    | nil =>
      obtain rfl : w = value := Option.some.inj here
      rw [Json.setSegments?, Fields.insert_of_get? found]
    | cons segment' rest =>
      have clear : ¬ w.Obstructs (segment' :: rest) := fun blocked => below ⟨w, found, blocked⟩
      rw [setSegments?_below, found, Option.getD_some, ih clear (List.cons_ne_nil _ _) here,
        Option.map_some, Fields.insert_of_get? found]

/-- Of two values written at one path, the second one stands. -/
theorem setSegments?_setSegments? (written : setSegments? value p v = some v') (other : Json) :
    setSegments? other p v' = setSegments? other p v := by
  induction p generalizing v v' with
  | nil => cases written
  | cons segment rest ih =>
    obtain ⟨fs, below, rfl, rfl, deeper⟩ := setSegments?_field written
    cases rest with
    | nil => rw [setSegments?, setSegments?, Fields.insert_insert]
    | cons segment' rest =>
      obtain ⟨last, -⟩ | deeper := deeper
      · cases last
      · rw [setSegments?_below, setSegments?_below, Fields.get?_insert_self, Option.getD_some,
          ih deeper]
        simp only [Fields.insert_insert]

/-- A removal of a path that another one does not lead through takes nothing out of its way. -/
theorem obstructs_removeSegments (wf : v.WellFormed) (apart : ¬ p <+: q) :
    (removeSegments p v).Obstructs q ↔ v.Obstructs q := by
  induction p generalizing v q with
  | nil => exact absurd List.nil_prefix apart
  | cons segment rest ih =>
    cases v with
    | obj fs =>
      obtain ⟨gs, removed, others, here⟩ := removeSegments_fields wf.nodup_keys segment rest
      rw [removed]
      cases q with
      | nil => exact iff_of_false (not_obstructs_nil _) (not_obstructs_nil _)
      | cons first more =>
        rw [obstructs_field, obstructs_field]
        by_cases same : first = segment
        · subst same
          have inner : ¬ rest <+: more := by simpa using apart
          have further : rest ≠ [] := by
            rintro rfl
            exact inner List.nil_prefix
          rw [here, if_neg further]
          cases found : Fields.get? fs first with
          | none => rfl
          | some below => exact ih (wf.of_get? found) inner
        · rw [others first same]
    | arr xs =>
      obtain ⟨ys, removed, -⟩ := removeSegments_items segment rest xs
      rw [removed]
      cases q with
      | nil => exact iff_of_false (not_obstructs_nil _) (not_obstructs_nil _)
      | cons first more =>
        exact iff_of_true (obstructs_of_not_isObject rfl _ _) (obstructs_of_not_isObject rfl _ _)
    | _ => rw [removeSegments_of_isScalar rfl]

theorem getSegments?_removeSegments_of_apart (wf : v.WellFormed) (apart : p.Apart q)
    (free : ¬ v.Obstructs q) : (removeSegments p v).getSegments? q = v.getSegments? q := by
  induction p generalizing v q with
  | nil => exact absurd List.nil_prefix apart.1
  | cons segment rest ih =>
    cases q with
    | nil => exact absurd List.nil_prefix apart.2
    | cons first more =>
      have object : v.isObject = true := by
        by_contra other
        exact free (obstructs_of_not_isObject (by simpa using other) first more)
      obtain ⟨fs, rfl⟩ := exists_fields object
      obtain ⟨gs, removed, others, here⟩ := removeSegments_fields wf.nodup_keys segment rest
      rw [removed]
      by_cases same : first = segment
      · subst same
        obtain ⟨further, there⟩ := apart.ne_nil
        rw [obstructs_field] at free
        rw [getSegments?_field _ _ there, getSegments?_field _ _ there, here, if_neg further]
        cases found : Fields.get? fs first with
        | none => rfl
        | some below =>
          rw [found, Option.getD_some] at free
          exact ih (wf.of_get? found) apart.of_cons free
      · rw [getSegments?_cons, getSegments?_cons, child?_fields, child?_fields, others first same]

/-! ## Changes at paths that are apart -/

/-- A write does not change what a removal takes with it. -/
theorem removes_setSegments? (apart : p.Apart q) (written : setSegments? value p v = some v')
    (π : Place) : removes v' q π = removes v q π := by
  induction p generalizing v v' q π with
  | nil => cases written
  | cons segment rest ih =>
    obtain ⟨fs, below, rfl, rfl, deeper⟩ := setSegments?_field written
    cases q with
    | nil => exact absurd List.nil_prefix apart.2
    | cons first more =>
      match π with
      | [] => rw [removes_root, removes_root]
      | .index i :: π => rw [removes_index, removes_index]
      | .key k :: π =>
        by_cases last : more = []
        · rw [last, removes_leaf, removes_leaf]
        · rw [removes_below _ _ last, removes_below _ _ last]
          by_cases same : first = segment
          · subst same
            rw [Fields.get?_insert_self, Option.getD_some]
            rcases deeper with ⟨rfl, -⟩ | deeper
            · exact absurd rfl apart.ne_nil.1
            · rw [ih apart.of_cons deeper]
          · rw [Fields.get?_insert_of_ne same]

/-- What a removal takes with it is apart from where a write is made. -/
theorem place_apart_of_removes (apart : p.Apart q) (written : setSegments? value p v = some v')
    (gone : removes v q π = true) : ¬ p.place <+: π ∧ ¬ π <+: p.place := by
  induction p generalizing v v' q π with
  | nil => cases written
  | cons segment rest ih =>
    obtain ⟨fs, below, rfl, rfl, deeper⟩ := setSegments?_field written
    cases q with
    | nil => exact absurd List.nil_prefix apart.2
    | cons first more =>
      match π with
      | [] =>
        rw [removes_root] at gone
        cases gone
      | .index i :: π =>
        rw [removes_index] at gone
        cases gone
      | .key k :: π =>
        by_cases last : more = []
        · subst last
          rw [removes_leaf, beq_iff_eq] at gone
          subst gone
          have other : segment ≠ k := by
            rintro rfl
            exact absurd (List.nil_prefix : [] <+: rest) (by simpa using apart.2)
          simp [Path.place, List.cons_prefix_cons, other, other.symm]
        · rw [removes_below _ _ last, Bool.and_eq_true, beq_iff_eq] at gone
          obtain ⟨rfl, gone⟩ := gone
          by_cases same : k = segment
          · subst same
            rcases deeper with ⟨rfl, -⟩ | deeper
            · exact absurd rfl apart.ne_nil.1
            · simpa [Path.place, List.cons_prefix_cons] using ih apart.of_cons deeper gone
          · have other : segment ≠ k := fun e => same e.symm
            simp [Path.place, List.cons_prefix_cons, other, same]

/-- After a removal, another one takes no other places with it, but for those that are gone. -/
theorem removes_removeSegments (wf : v.WellFormed) (p q : Path) (π : Place) :
    (removes v p π || removes (removeSegments p v) q π) = (removes v p π || removes v q π) := by
  induction p generalizing v q π with
  | nil => rw [removeSegments_nil]
  | cons segment rest ih =>
    cases q with
    | nil => rw [removes_nil, removes_nil]
    | cons first more =>
      cases v with
      | obj fs =>
        obtain ⟨gs, removed, others, here⟩ := removeSegments_fields wf.nodup_keys segment rest
        rw [removed]
        match π with
        | [] => simp only [removes_root]
        | .index i :: π => simp only [removes_index]
        | .key k :: π =>
          by_cases last : more = []
          · rw [last, removes_leaf, removes_leaf]
          · rw [removes_below gs first last, removes_below fs first last]
            by_cases same : first = segment
            · subst same
              by_cases ends : rest = []
              · rw [ends, removes_leaf]
                cases k == first <;> rfl
              · rw [removes_below fs first ends, here, if_neg ends, ← Bool.and_or_distrib_left,
                  ← Bool.and_or_distrib_left]
                cases found : Fields.get? fs first with
                | none => rfl
                | some below => exact congrArg _ (ih (wf.of_get? found) more π)
            · rw [others first same]
      | arr xs =>
        obtain ⟨ys, removed, items⟩ := removeSegments_items segment rest xs
        rw [removed]
        match π with
        | [] => simp only [removes_root]
        | .key k :: π => simp only [removes_key]
        | .index j :: π =>
          simp only [removes_item, items j]
          by_cases same : indexOf? segment = some j
          · rw [if_pos same, same, BEq.rfl, Bool.true_and]
            cases found : xs[j]? with
            | none => rfl
            | some below =>
              have step := ih (wf.items below (List.mem_of_getElem? found)) more π
              simp only [Option.map_some, Option.any_some]
              cases indexOf? first == some j with
              | false => rfl
              | true => exact step
          · rw [if_neg same]
      | _ => rw [removeSegments_of_isScalar rfl]

/-- A value that is written a second time. -/
theorem graft_self (ρ : Place) (g f : Place → Option Shape) (π : Place) :
    graft ρ g (graft ρ g f) π = graft ρ g f π := by
  by_cases below : ρ <+: π
  · simp [graft, below]
  · by_cases above : π <+: ρ <;> simp [graft, below, above]

/-- After a write, nothing is in the way of another one at the same path. -/
theorem not_obstructs_setSegments?_self (written : setSegments? value p v = some v') :
    ¬ v'.Obstructs p := by
  rintro ⟨outer, inner, w, rfl, more, there, blocked⟩
  rcases getSegments?_of_setSegments? written there blocked with inside | before
  · have short := inside.length_le
    rw [List.length_append] at short
    have long := List.length_pos_iff.2 more
    omega
  · exact (not_obstructs_of_setSegments? written).2 ⟨outer, inner, w, rfl, more, before, blocked⟩

/-- To write a value a second time changes nothing. -/
theorem setSegments?_again (written : setSegments? value p v = some v') :
    ∃ w, setSegments? value p v' = some w ∧ w.Reordered v' := by
  have more := (not_obstructs_of_setSegments? written).1
  obtain ⟨w, again⟩ := exists_setSegments? more (not_obstructs_setSegments?_self written) value
  refine ⟨w, again, fun π => ?_⟩
  calc w.view π = graft p.place value.view v'.view π := view_setSegments? again π
    _ = graft p.place value.view (graft p.place value.view v.view) π :=
        graft_eq (view_setSegments? written π)
    _ = graft p.place value.view v.view π := graft_self _ _ _ π
    _ = v'.view π := (view_setSegments? written π).symm

/-- To remove a path a second time changes nothing. -/
theorem removeSegments_again (wf : v.WellFormed) (p : Path) :
    (removeSegments p (removeSegments p v)).Reordered (removeSegments p v) := by
  intro π
  have gone := removes_removeSegments wf p p π
  rw [view_removeSegments (wf.removeSegments p), view_removeSegments wf]
  revert gone
  cases removes v p π <;> cases removes (removeSegments p v) p π <;> simp

/-- Values that are written at places that are apart. -/
theorem graft_comm {ρ σ : Place} (apart : ¬ ρ <+: σ) (apart' : ¬ σ <+: ρ)
    (f g h : Place → Option Shape) (π : Place) :
    graft ρ f (graft σ g h) π = graft σ g (graft ρ f h) π := by
  have outside (both : ρ <+: π) (both' : σ <+: π) : False :=
    (List.prefix_or_prefix_of_prefix both both').elim apart apart'
  have across {α β : Place} (apart : ¬ α <+: β) (up : α <+: π) (down : π <+: β) : False :=
    apart (up.trans down)
  unfold graft
  by_cases h₁ : ρ <+: π <;> by_cases h₂ : σ <+: π <;> by_cases h₃ : π <+: ρ <;>
    by_cases h₄ : π <+: σ <;> simp only [h₁, h₂, h₃, h₄, if_true, if_false]
  all_goals first
    | exact (outside h₁ h₂).elim
    | exact (across apart h₁ h₄).elim
    | exact (across apart' h₂ h₃).elim

theorem place_prefix_iff : p.place <+: q.place ↔ p <+: q := by
  have injective : Function.Injective Step.key := fun _ _ same => Step.key.inj same
  constructor
  · intro h
    obtain ⟨r, within, same⟩ := List.prefix_map_iff.1 h
    rw [List.map_injective_iff.2 injective same]
    exact within
  · intro h
    exact h.map Step.key

/-- A write and another one, in either order. -/
theorem setSegments?_comm (apart : p.Apart q)
    (first : setSegments? value p v = some w) (second : setSegments? value' q w = some v') :
    ∃ u u', setSegments? value' q v = some u ∧ setSegments? value p u = some u' ∧
      v'.Reordered u' := by
  obtain ⟨more, free⟩ := not_obstructs_of_setSegments? first
  obtain ⟨more', free'⟩ := not_obstructs_of_setSegments? second
  rw [obstructs_setSegments? apart first] at free'
  obtain ⟨u, here⟩ := exists_setSegments? more' free' value'
  rw [← obstructs_setSegments? apart.symm here] at free
  obtain ⟨u', there⟩ := exists_setSegments? more free value
  refine ⟨u, u', here, there, fun π => ?_⟩
  have away : ¬ p.place <+: q.place := mt place_prefix_iff.1 apart.1
  have away' : ¬ q.place <+: p.place := mt place_prefix_iff.1 apart.2
  calc v'.view π = graft q.place value'.view w.view π := view_setSegments? second π
    _ = graft q.place value'.view (graft p.place value.view v.view) π :=
        graft_eq (view_setSegments? first π)
    _ = graft p.place value.view (graft q.place value'.view v.view) π :=
        graft_comm away' away _ _ _ π
    _ = graft p.place value.view u.view π := graft_eq (view_setSegments? here π).symm
    _ = u'.view π := (view_setSegments? there π).symm

/-- A write and a removal, in either order. -/
theorem setSegments?_removeSegments_comm (wf : v.WellFormed) (given : value.WellFormed)
    (apart : p.Apart q) (written : setSegments? value p v = some w) :
    ∃ u, setSegments? value p (removeSegments q v) = some u ∧ (removeSegments q w).Reordered u := by
  obtain ⟨more, free⟩ := not_obstructs_of_setSegments? written
  rw [← obstructs_removeSegments wf apart.2] at free
  obtain ⟨u, there⟩ := exists_setSegments? more free value
  refine ⟨u, there, fun π => ?_⟩
  rw [view_removeSegments (wf.setSegments? given written), removes_setSegments? apart written,
    view_setSegments? written, view_setSegments? there, graft, graft, view_removeSegments wf]
  cases gone : removes v q π with
  | false => simp
  | true =>
    -- What goes is neither in what was written nor on the way to it.
    obtain ⟨below, above⟩ := place_apart_of_removes apart written gone
    simp [below, above]

/-- Two removals, in either order. -/
theorem removeSegments_comm (wf : v.WellFormed) (p q : Path) :
    (removeSegments q (removeSegments p v)).Reordered (removeSegments p (removeSegments q v)) := by
  intro π
  have first := removes_removeSegments wf p q π
  have second := removes_removeSegments wf q p π
  rw [view_removeSegments (wf.removeSegments p), view_removeSegments wf,
    view_removeSegments (wf.removeSegments q), view_removeSegments wf]
  revert first second
  cases removes v p π <;> cases removes v q π <;> cases removes (removeSegments p v) q π <;>
    cases removes (removeSegments q v) p π <;> simp

end

end Json

end DocStore
