import DocStore.Proofs.Json.Apart

/-!
# Changes one after the other

A list of changes, each at a path of its own. Where the paths are pairwise apart, the changes can be
made in any order (`Json.PathChange.foldlM_perm`), and made again they change nothing
(`Json.PathChange.foldlM_again`), both up to the order of keys.
-/

namespace DocStore

namespace Json

/-- What is done at a path. -/
inductive PathAction where
  /-- Nothing. -/
  | keep
  | write (value : Json)
  | remove

/-- Something done at a path. -/
structure PathChange where
  path : Path
  action : PathAction

namespace PathChange

/-- Makes a change, if nothing is in its way. -/
def apply (v : Json) (c : PathChange) : Option Json :=
  match c.action with
  | .keep => some v
  | .write value => setSegments? value c.path v
  | .remove => some (removeSegments c.path v)

/-- What is written repeats no key. -/
def WellFormed (c : PathChange) : Prop := ∀ value, c.action = .write value → value.WellFormed

section

variable {c c' : PathChange} {cs cs' : List PathChange} {v v' w a : Json} {q : Path}

theorem WellFormed.apply (given : c.WellFormed) (wf : v.WellFormed) (made : c.apply v = some v') :
    v'.WellFormed := by
  obtain ⟨p, action⟩ := c
  cases action with
  | keep =>
    obtain rfl : v = v' := Option.some.inj made
    exact wf
  | write value => exact wf.setSegments? (given value rfl) made
  | remove =>
    obtain rfl : removeSegments p v = v' := Option.some.inj made
    exact wf.removeSegments p

/-- A change puts nothing in the way of a path that is apart, and takes nothing out of it. -/
theorem obstructs_iff (wf : v.WellFormed) (apart : c.path.Apart q) (made : c.apply v = some v') :
    v'.Obstructs q ↔ v.Obstructs q := by
  obtain ⟨p, action⟩ := c
  cases action with
  | keep =>
    obtain rfl : v = v' := Option.some.inj made
    rfl
  | write value => exact obstructs_setSegments? apart made
  | remove =>
    obtain rfl : removeSegments p v = v' := Option.some.inj made
    exact obstructs_removeSegments wf apart.1

/-- A change leaves what is read at a path that is apart. A removal does so if nothing is in the way:
two paths can lead to the same item of an array. -/
theorem getSegments?_eq (wf : v.WellFormed) (apart : c.path.Apart q)
    (free : c.action = .remove → ¬ v.Obstructs q) (made : c.apply v = some v') :
    v'.getSegments? q = v.getSegments? q := by
  obtain ⟨p, action⟩ := c
  cases action with
  | keep =>
    obtain rfl : v = v' := Option.some.inj made
    rfl
  | write value => exact getSegments?_setSegments?_of_apart apart made
  | remove =>
    obtain rfl : removeSegments p v = v' := Option.some.inj made
    exact getSegments?_removeSegments_of_apart wf apart (free rfl)

theorem isObject_of_made (object : v.isObject = true) (made : c.apply v = some v') :
    v'.isObject = true := by
  obtain ⟨p, action⟩ := c
  cases action with
  | keep =>
    obtain rfl : v = v' := Option.some.inj made
    exact object
  | write value =>
    obtain ⟨fs, gs, -, rfl⟩ := exists_obj_of_setSegments? made
    rfl
  | remove =>
    obtain rfl : removeSegments p v = v' := Option.some.inj made
    obtain ⟨fs, rfl⟩ := exists_fields object
    obtain ⟨gs, removed⟩ := removeSegments_obj p fs
    rw [removed]
    rfl

/-- Nothing is in the way of a change. Nothing can be, unless it is a write. -/
def Free (c : PathChange) (v : Json) : Prop :=
  ∀ value, c.action = .write value → ¬ v.Obstructs c.path

theorem free_iff (wf : v.WellFormed) (apart : c.path.Apart c'.path) (made : c.apply v = some v') :
    c'.Free v' ↔ c'.Free v := by
  unfold Free
  rw [obstructs_iff wf apart made]

theorem free_of_made (made : c.apply v = some v') : c.Free v' := by
  obtain ⟨p, action⟩ := c
  rintro value writes
  obtain rfl : action = .write value := writes
  exact not_obstructs_setSegments?_self made

theorem reordered (wf : v.WellFormed) (wf' : w.WellFormed) (h : v.Reordered w)
    (made : c.apply v = some v') : ∃ w', c.apply w = some w' ∧ v'.Reordered w' := by
  obtain ⟨p, action⟩ := c
  cases action with
  | keep =>
    obtain rfl : v = v' := Option.some.inj made
    exact ⟨w, rfl, h⟩
  | write value => exact h.setSegments? made
  | remove =>
    obtain rfl : removeSegments p v = v' := Option.some.inj made
    exact ⟨_, rfl, h.removeSegments wf wf' p⟩

/-- **Changes at paths that are apart can be made in either order.** -/
theorem comm (wf : v.WellFormed) (given : c.WellFormed) (given' : c'.WellFormed)
    (apart : c.path.Apart c'.path) (first : c.apply v = some w) (second : c'.apply w = some v') :
    ∃ u u', c'.apply v = some u ∧ c.apply u = some u' ∧ v'.Reordered u' := by
  obtain ⟨p, action⟩ := c
  obtain ⟨q, action'⟩ := c'
  cases action with
  | keep =>
    obtain rfl : v = w := Option.some.inj first
    exact ⟨v', v', second, rfl, .refl _⟩
  | write value =>
    cases action' with
    | keep =>
      obtain rfl : w = v' := Option.some.inj second
      exact ⟨v, w, rfl, first, .refl _⟩
    | write value' => exact setSegments?_comm apart first second
    | remove =>
      obtain rfl : removeSegments q w = v' := Option.some.inj second
      obtain ⟨u, there, same⟩ := setSegments?_removeSegments_comm wf (given value rfl) apart first
      exact ⟨_, u, rfl, there, same⟩
  | remove =>
    obtain rfl : removeSegments p v = w := Option.some.inj first
    cases action' with
    | keep =>
      obtain rfl : _ = v' := Option.some.inj second
      exact ⟨v, _, rfl, rfl, .refl _⟩
    | write value' =>
      have second : setSegments? value' q (removeSegments p v) = some v' := second
      obtain ⟨more, free⟩ := not_obstructs_of_setSegments? second
      rw [obstructs_removeSegments wf apart.1] at free
      obtain ⟨u, here⟩ := exists_setSegments? more free value'
      obtain ⟨u', there, same⟩ :=
        setSegments?_removeSegments_comm wf (given' value' rfl) apart.symm here
      obtain rfl : v' = u' := Option.some.inj (second.symm.trans there)
      exact ⟨u, _, here, rfl, same.symm⟩
    | remove =>
      obtain rfl : removeSegments q (removeSegments p v) = v' := Option.some.inj second
      exact ⟨_, _, rfl, rfl, removeSegments_comm wf p q⟩

theorem foldlM_wellFormed (given : ∀ c ∈ cs, c.WellFormed) (wf : v.WellFormed)
    (made : cs.foldlM apply v = some a) : a.WellFormed := by
  induction cs generalizing v with
  | nil =>
    obtain rfl : v = a := Option.some.inj made
    exact wf
  | cons c cs ih =>
    obtain ⟨here, later⟩ := List.forall_mem_cons.1 given
    obtain ⟨next, first, rest⟩ := Option.bind_eq_some_iff.1 made
    exact ih later (here.apply wf first) rest

theorem isObject_of_foldlM (object : v.isObject = true) (made : cs.foldlM apply v = some a) :
    a.isObject = true := by
  induction cs generalizing v with
  | nil =>
    obtain rfl : v = a := Option.some.inj made
    exact object
  | cons c cs ih =>
    obtain ⟨next, first, rest⟩ := Option.bind_eq_some_iff.1 made
    exact ih (isObject_of_made object first) rest

/-- Changes that can all be made have nothing in their way from the start. -/
theorem free_of_foldlM (apart : cs.Pairwise fun c c' => c.path.Apart c'.path)
    (given : ∀ c ∈ cs, c.WellFormed) (wf : v.WellFormed) (made : cs.foldlM apply v = some a) :
    ∀ c ∈ cs, c.Free v := by
  induction cs generalizing v with
  | nil => exact fun _ mem => absurd mem List.not_mem_nil
  | cons c cs ih =>
    obtain ⟨away, apart⟩ := List.pairwise_cons.1 apart
    obtain ⟨here, later⟩ := List.forall_mem_cons.1 given
    obtain ⟨next, first, rest⟩ := Option.bind_eq_some_iff.1 made
    refine List.forall_mem_cons.2 ⟨?_, ?_⟩
    · intro value writes
      obtain ⟨p, action⟩ := c
      obtain rfl : action = .write value := writes
      exact (not_obstructs_of_setSegments? first).2
    · intro c' mem
      exact (free_iff wf (away c' mem) first).1 (ih apart later (here.apply wf first) rest c' mem)

theorem foldlM_reordered (given : ∀ c ∈ cs, c.WellFormed) (wf : v.WellFormed)
    (wf' : w.WellFormed) (h : v.Reordered w) (made : cs.foldlM apply v = some a) :
    ∃ b, cs.foldlM apply w = some b ∧ a.Reordered b := by
  induction cs generalizing v w with
  | nil =>
    obtain rfl : v = a := Option.some.inj made
    exact ⟨w, rfl, h⟩
  | cons c cs ih =>
    obtain ⟨here, later⟩ := List.forall_mem_cons.1 given
    obtain ⟨next, first, rest⟩ := Option.bind_eq_some_iff.1 made
    obtain ⟨next', first', same⟩ := reordered wf wf' h first
    obtain ⟨b, rest', last⟩ := ih later (here.apply wf first) (here.apply wf' first') same rest
    exact ⟨b, Option.bind_eq_some_iff.2 ⟨next', first', rest'⟩, last⟩

/-- **Changes at paths that are pairwise apart can be made in any order.** -/
theorem foldlM_perm (perm : cs.Perm cs') (apart : cs.Pairwise fun c c' => c.path.Apart c'.path)
    (given : ∀ c ∈ cs, c.WellFormed) (wf : v.WellFormed) (made : cs.foldlM apply v = some a) :
    ∃ b, cs'.foldlM apply v = some b ∧ a.Reordered b := by
  induction perm generalizing v a with
  | nil => exact ⟨a, made, .refl a⟩
  | cons c perm ih =>
    obtain ⟨-, apart⟩ := List.pairwise_cons.1 apart
    obtain ⟨here, later⟩ := List.forall_mem_cons.1 given
    obtain ⟨next, first, rest⟩ := Option.bind_eq_some_iff.1 made
    obtain ⟨b, rest', same⟩ := ih apart later (here.apply wf first) rest
    exact ⟨b, Option.bind_eq_some_iff.2 ⟨next, first, rest'⟩, same⟩
  | swap c c' cs =>
    obtain ⟨away, -⟩ := List.pairwise_cons.1 apart
    obtain ⟨here, given⟩ := List.forall_mem_cons.1 given
    obtain ⟨here', later⟩ := List.forall_mem_cons.1 given
    obtain ⟨w, first, made⟩ := Option.bind_eq_some_iff.1 made
    obtain ⟨v', second, rest⟩ := Option.bind_eq_some_iff.1 made
    obtain ⟨u, u', first', second', same⟩ :=
      comm wf here here' (away c List.mem_cons_self) first second
    have wfv := here'.apply (here.apply wf first) second
    have wfu := here.apply (here'.apply wf first') second'
    obtain ⟨b, rest', last⟩ := foldlM_reordered later wfv wfu same rest
    exact ⟨b, Option.bind_eq_some_iff.2 ⟨u, first', Option.bind_eq_some_iff.2 ⟨u', second', rest'⟩⟩,
      last⟩
  | trans perm perm' ih ih' =>
    obtain ⟨b, middle, same⟩ := ih apart given wf made
    have apart' := (perm.pairwise_iff Path.Apart.symm).1 apart
    have given' (c : PathChange) (mem : c ∈ _) := given c (perm.mem_iff.2 mem)
    obtain ⟨d, last, same'⟩ := ih' apart' given' wf middle
    exact ⟨d, last, same.trans same'⟩

/-! ## What a list of changes leaves -/

theorem obstructs_foldlM_iff (apart : ∀ c ∈ cs, c.path.Apart q) (given : ∀ c ∈ cs, c.WellFormed)
    (wf : v.WellFormed) (made : cs.foldlM apply v = some a) : a.Obstructs q ↔ v.Obstructs q := by
  induction cs generalizing v with
  | nil =>
    obtain rfl : v = a := Option.some.inj made
    rfl
  | cons c cs ih =>
    obtain ⟨away, apart⟩ := List.forall_mem_cons.1 apart
    obtain ⟨here, later⟩ := List.forall_mem_cons.1 given
    obtain ⟨next, first, rest⟩ := Option.bind_eq_some_iff.1 made
    rw [ih apart later (here.apply wf first) rest, obstructs_iff wf away first]

theorem getSegments?_foldlM_of_apart (apart : ∀ c ∈ cs, c.path.Apart q)
    (free : (∃ c ∈ cs, c.action = .remove) → ¬ v.Obstructs q) (given : ∀ c ∈ cs, c.WellFormed)
    (wf : v.WellFormed) (made : cs.foldlM apply v = some a) : a.getSegments? q = v.getSegments? q := by
  induction cs generalizing v with
  | nil =>
    obtain rfl : v = a := Option.some.inj made
    rfl
  | cons c cs ih =>
    obtain ⟨away, apart⟩ := List.forall_mem_cons.1 apart
    obtain ⟨here, later⟩ := List.forall_mem_cons.1 given
    obtain ⟨next, first, rest⟩ := Option.bind_eq_some_iff.1 made
    have step : next.getSegments? q = v.getSegments? q :=
      getSegments?_eq wf away (fun removes => free ⟨c, List.mem_cons_self, removes⟩) first
    refine (ih apart ?_ later (here.apply wf first) rest).trans step
    rintro ⟨c', mem, removes⟩
    rw [obstructs_iff wf away first]
    exact free ⟨c', List.mem_cons_of_mem _ mem, removes⟩

/-- What one of several changes writes stays where it is. -/
theorem getSegments?_foldlM_of_mem {value : Json}
    (apart : cs.Pairwise fun c c' => c.path.Apart c'.path) (given : ∀ c ∈ cs, c.WellFormed)
    (wf : v.WellFormed) (made : cs.foldlM apply v = some a) (mem : c ∈ cs)
    (written : c.action = .write value) : a.getSegments? c.path = some value := by
  induction cs generalizing v with
  | nil => cases mem
  | cons c' cs ih =>
    obtain ⟨away, apart⟩ := List.pairwise_cons.1 apart
    obtain ⟨here, later⟩ := List.forall_mem_cons.1 given
    obtain ⟨next, first, rest⟩ := Option.bind_eq_some_iff.1 made
    have wf' := here.apply wf first
    rcases List.mem_cons.1 mem with rfl | mem
    · have others (c' : PathChange) (mem : c' ∈ cs) := (away c' mem).symm
      have free := free_of_made first value written
      rw [getSegments?_foldlM_of_apart others (fun _ => free) later wf' rest]
      obtain ⟨p, action⟩ := c
      obtain rfl : action = .write value := written
      exact getSegments?_setSegments?_self first
    · exact ih apart later wf' rest mem

/-- A write that is made below a field, of what is there. -/
def Repeats (v : Json) (segment : String) (c : PathChange) : Prop :=
  ∃ rest value, rest ≠ [] ∧ c = ⟨segment :: rest, .write value⟩ ∧
    v.getSegments? (segment :: rest) = some value

/-- A field stays as it is under changes that are apart from it or repeat what is in it. -/
theorem getSegments?_foldlM_of_repeats {segment : String}
    (each : ∀ c ∈ cs, c.action ≠ .remove ∧ c.path.Apart [segment] ∨ Repeats v segment c)
    (given : ∀ c ∈ cs, c.WellFormed) (wf : v.WellFormed) (made : cs.foldlM apply v = some a) :
    a.getSegments? [segment] = v.getSegments? [segment] := by
  induction cs generalizing v with
  | nil =>
    obtain rfl : v = a := Option.some.inj made
    rfl
  | cons c cs ih =>
    obtain ⟨one, each⟩ := List.forall_mem_cons.1 each
    obtain ⟨here, later⟩ := List.forall_mem_cons.1 given
    obtain ⟨next, first, rest⟩ := Option.bind_eq_some_iff.1 made
    have step : next.getSegments? [segment] = v.getSegments? [segment] := by
      rcases one with ⟨leaves, away⟩ | ⟨below, value, -, rfl, there⟩
      · exact getSegments?_eq wf away (fun removes => absurd removes leaves) first
      · obtain ⟨more, free⟩ := not_obstructs_of_setSegments? first
        obtain rfl : v = next :=
          Option.some.inj ((setSegments?_of_getSegments? free more there).symm.trans first)
        rfl
    have split (u : Json) (below : Path) :
        u.getSegments? (segment :: below) = (u.getSegments? [segment]).bind (·.getSegments? below) := by
      rw [getSegments?_cons, getSegments?_cons, Option.bind_assoc]
      rfl
    refine (ih (fun c' mem => ?_) later (here.apply wf first) rest).trans step
    refine (each c' mem).imp_right ?_
    rintro ⟨below, value, more, same, there⟩
    rw [split, ← step, ← split] at there
    exact ⟨below, value, more, same, there⟩

/-- What is shown after changes was shown before, or is inside or on the way to what was changed. -/
theorem view_foldlM {π : Place} (given : ∀ c ∈ cs, c.WellFormed) (wf : v.WellFormed)
    (made : cs.foldlM apply v = some a) (shown : a.view π ≠ none) :
    v.view π ≠ none ∨ ∃ c ∈ cs, c.path.place <+: π ∨ π <+: c.path.place := by
  induction cs generalizing v with
  | nil =>
    obtain rfl : v = a := Option.some.inj made
    exact .inl shown
  | cons c cs ih =>
    obtain ⟨here, later⟩ := List.forall_mem_cons.1 given
    obtain ⟨next, first, rest⟩ := Option.bind_eq_some_iff.1 made
    rcases ih later (here.apply wf first) rest with before | ⟨c', mem, inside⟩
    · by_cases inside : c.path.place <+: π ∨ π <+: c.path.place
      · exact .inr ⟨c, List.mem_cons_self, inside⟩
      · refine .inl fun absent => before ?_
        obtain ⟨below, above⟩ := not_or.1 inside
        obtain ⟨p, action⟩ := c
        cases action with
        | keep =>
          obtain rfl : v = next := Option.some.inj first
          exact absent
        | write value =>
          rw [view_setSegments? first, graft, if_neg below, if_neg above]
          exact absent
        | remove =>
          obtain rfl : removeSegments p v = next := Option.some.inj first
          rw [view_removeSegments wf, absent, ite_self]
    · exact .inr ⟨c', List.mem_cons_of_mem _ mem, inside⟩

/-! ## Changes that are made again -/

/-- A change that can be made and changes nothing. -/
def Idle (v : Json) (c : PathChange) : Prop := ∃ w, c.apply v = some w ∧ w.Reordered v

/-- A change that was made is idle. -/
theorem idle_of_made (wf : v.WellFormed) (made : c.apply v = some w) : Idle w c := by
  obtain ⟨p, action⟩ := c
  cases action with
  | keep =>
    obtain rfl : v = w := Option.some.inj made
    exact ⟨v, rfl, .refl v⟩
  | write value => exact setSegments?_again made
  | remove =>
    obtain rfl : removeSegments p v = w := Option.some.inj made
    exact ⟨_, rfl, removeSegments_again wf p⟩

theorem Idle.reordered (idle : Idle v c) (wf : v.WellFormed) (wf' : w.WellFormed)
    (h : v.Reordered w) : Idle w c := by
  obtain ⟨u, made, same⟩ := idle
  obtain ⟨u', made', same'⟩ := PathChange.reordered wf wf' h made
  exact ⟨u', made', same'.symm.trans (same.trans h)⟩

/-- **An idle change stays idle** under changes at paths that are apart. -/
theorem Idle.step (idle : Idle v c) (wf : v.WellFormed) (given : c.WellFormed)
    (given' : c'.WellFormed) (apart : c.path.Apart c'.path) (made : c'.apply v = some v') :
    Idle v' c := by
  obtain ⟨u, first, same⟩ := idle
  obtain ⟨u', second, same'⟩ := PathChange.reordered wf (given.apply wf first) same.symm made
  obtain ⟨t, t', first', second', last⟩ := comm wf given given' apart first second
  obtain rfl : v' = t := Option.some.inj (made.symm.trans first')
  exact ⟨t', second', (same'.trans last).symm⟩

theorem Idle.run (idle : Idle v c) (wf : v.WellFormed) (given : c.WellFormed)
    (givens : ∀ c ∈ cs, c.WellFormed) (apart : ∀ c' ∈ cs, c.path.Apart c'.path)
    (made : cs.foldlM apply v = some a) : Idle a c := by
  induction cs generalizing v with
  | nil =>
    obtain rfl : v = a := Option.some.inj made
    exact idle
  | cons c' cs ih =>
    obtain ⟨here, later⟩ := List.forall_mem_cons.1 givens
    obtain ⟨away, apart⟩ := List.forall_mem_cons.1 apart
    obtain ⟨next, first, rest⟩ := Option.bind_eq_some_iff.1 made
    exact ih (idle.step wf given here away first) (here.apply wf first) later apart rest

/-- After changes at paths that are pairwise apart, all of them are idle. -/
theorem idle_of_foldlM (apart : cs.Pairwise fun c c' => c.path.Apart c'.path)
    (given : ∀ c ∈ cs, c.WellFormed) (wf : v.WellFormed) (made : cs.foldlM apply v = some a) :
    ∀ c ∈ cs, Idle a c := by
  induction cs generalizing v with
  | nil => exact fun _ mem => absurd mem List.not_mem_nil
  | cons c cs ih =>
    obtain ⟨away, apart⟩ := List.pairwise_cons.1 apart
    obtain ⟨here, later⟩ := List.forall_mem_cons.1 given
    obtain ⟨next, first, rest⟩ := Option.bind_eq_some_iff.1 made
    have wf' := here.apply wf first
    refine List.forall_mem_cons.2 ⟨?_, ih apart later wf' rest⟩
    exact (idle_of_made wf first).run wf' here later away rest

theorem foldlM_of_idle (idle : ∀ c ∈ cs, Idle v c) (given : ∀ c ∈ cs, c.WellFormed)
    (wf : v.WellFormed) : ∃ w, cs.foldlM apply v = some w ∧ w.Reordered v := by
  induction cs generalizing v with
  | nil => exact ⟨v, rfl, .refl v⟩
  | cons c cs ih =>
    obtain ⟨⟨next, first, same⟩, others⟩ := List.forall_mem_cons.1 idle
    obtain ⟨here, later⟩ := List.forall_mem_cons.1 given
    have wf' := here.apply wf first
    have idle' (c' : PathChange) (mem : c' ∈ cs) := (others c' mem).reordered wf wf' same.symm
    obtain ⟨w, rest, same'⟩ := ih idle' later wf'
    exact ⟨w, Option.bind_eq_some_iff.2 ⟨next, first, rest⟩, same'.trans same⟩

/-- **Changes at paths that are pairwise apart change nothing when they are made again.** -/
theorem foldlM_again (apart : cs.Pairwise fun c c' => c.path.Apart c'.path)
    (given : ∀ c ∈ cs, c.WellFormed) (wf : v.WellFormed) (made : cs.foldlM apply v = some a) :
    ∃ b, cs.foldlM apply a = some b ∧ b.Reordered a :=
  foldlM_of_idle (idle_of_foldlM apart given wf made) given (foldlM_wellFormed given wf made)

end

end PathChange

/-! ## Paths that are removed one after the other -/

section

variable {v w : Json} {ps : List Path} {p : Path} {π : Place}

/-- **What a value shows after several removals.** -/
theorem view_removals (wf : v.WellFormed) (ps : List Path) (π : Place) :
    (ps.foldl (fun d p => removeSegments p d) v).view π =
      if ∃ p ∈ ps, removes v p π = true then none else v.view π := by
  induction ps generalizing v with
  | nil => simp
  | cons p ps ih =>
    rw [List.foldl_cons, ih (wf.removeSegments p), view_removeSegments wf]
    have either (q : Path) := removes_removeSegments wf p q π
    cases gone : removes v p π with
    | true => simp [gone]
    | false =>
      -- What the first removal spares, the others take with them exactly if they would have before.
      have others (q : Path) : removes (removeSegments p v) q π = removes v q π := by
        simpa [gone] using either q
      simp [gone, others]

theorem getSegments?_of_removals (wf : v.WellFormed)
    (there : (ps.foldl (fun d p => removeSegments p d) v).getSegments? p = some w) :
    ∃ w', v.getSegments? p = some w' := by
  induction ps generalizing v with
  | nil => exact ⟨w, there⟩
  | cons q ps ih =>
    obtain ⟨w', here⟩ := ih (wf.removeSegments q) there
    obtain ⟨w'', before, -⟩ := getSegments?_of_removeSegments wf here
    exact ⟨w'', before⟩

/-- Where something is read at a path after several removals, that path's among them, it leads to an
item of an array. -/
theorem leadsToItem_of_removals (wf : v.WellFormed) (mem : p ∈ ps) (more : p ≠ [])
    (there : (ps.foldl (fun d p => removeSegments p d) v).getSegments? p = some w) :
    v.LeadsToItem p := by
  induction ps generalizing v with
  | nil => cases mem
  | cons q ps ih =>
    have wf' := wf.removeSegments q
    rcases List.mem_cons.1 mem with rfl | mem
    · obtain ⟨w', here⟩ := getSegments?_of_removals wf' there
      exact leadsToItem_of_removed wf more here
    · exact leadsToItem_of_removeSegments wf (ih wf' mem there)

end

end Json

end DocStore
