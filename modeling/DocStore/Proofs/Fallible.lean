import Mathlib.Data.List.Forall2

/-!
# Computations that can fail

What it takes for a composed computation to succeed.
-/

namespace DocStore.Fallible

variable {ε α β : Type}

theorem bind_eq_ok {x : Except ε α} {f : α → Except ε β} {b : β} :
    (x >>= f) = .ok b ↔ ∃ a, x = .ok a ∧ f a = .ok b := by
  cases x with
  | error e => simp [bind, Except.bind]
  | ok a => simp [bind, Except.bind]

theorem map_eq_ok {x : Except ε α} {f : α → β} {b : β} :
    x.map f = .ok b ↔ ∃ a, x = .ok a ∧ f a = b := by
  cases x with
  | error e => simp [Except.map]
  | ok a => simp [Except.map]

theorem map_eq_error {x : Except ε α} {f : α → β} {e : ε} : x.map f = .error e ↔ x = .error e := by
  cases x <;> simp [Except.map]

/-- A list is worked off if each of its items is. -/
theorem mapM_eq_ok {f : α → Except ε β} {xs : List α} {ys : List β} :
    xs.mapM f = .ok ys ↔ List.Forall₂ (fun x y => f x = .ok y) xs ys := by
  induction xs generalizing ys with
  | nil => simp [pure, Except.pure, eq_comm]
  | cons x xs ih =>
    rw [List.mapM_cons, bind_eq_ok]
    constructor
    · rintro ⟨y, hy, rest⟩
      obtain ⟨zs, hzs, last⟩ := bind_eq_ok.1 rest
      cases last
      exact .cons hy (ih.1 hzs)
    · rintro (_ | ⟨hy, hzs⟩)
      exact ⟨_, hy, bind_eq_ok.2 ⟨_, ih.2 hzs, rfl⟩⟩

/-- A list whose items all succeed is mapped. -/
theorem mapM_eq_map {f : α → Except ε β} {g : α → β} {xs : List α} (each : ∀ x ∈ xs, f x = .ok (g x)) :
    xs.mapM f = .ok (xs.map g) := by
  rw [mapM_eq_ok, List.forall₂_map_right_iff, List.forall₂_same]
  exact each

theorem exists_mapM {f : α → Except ε β} {xs : List α} (each : ∀ x ∈ xs, ∃ y, f x = .ok y) :
    ∃ ys, xs.mapM f = .ok ys := by
  induction xs with
  | nil => exact ⟨[], rfl⟩
  | cons x xs ih =>
    obtain ⟨⟨y, here⟩, there⟩ := List.forall_mem_cons.1 each
    obtain ⟨ys, rest⟩ := ih there
    exact ⟨y :: ys, mapM_eq_ok.2 (.cons here (mapM_eq_ok.1 rest))⟩

/-- A list fails at the first of its items that does. -/
theorem mapM_eq_error {f : α → Except ε β} {xs : List α} {e : ε} :
    xs.mapM f = .error e ↔ ∃ before x after, xs = before ++ x :: after ∧
      (∀ y ∈ before, ∃ z, f y = .ok z) ∧ f x = .error e := by
  induction xs with
  | nil => simp [pure, Except.pure]
  | cons x xs ih =>
    rw [List.mapM_cons]
    constructor
    · intro h
      cases here : f x with
      | error e' =>
        rw [here] at h
        cases h
        exact ⟨[], x, xs, rfl, by simp, here⟩
      | ok y =>
        rw [here] at h
        cases there : xs.mapM f with
        | ok ys =>
          rw [there] at h
          cases h
        | error e' =>
          rw [there] at h
          cases h
          obtain ⟨before, z, after, rfl, fine, fails⟩ := ih.1 there
          exact ⟨x :: before, z, after, rfl, by simpa using ⟨⟨y, here⟩, fine⟩, fails⟩
    · rintro ⟨_ | ⟨y, before⟩, z, after, same, fine, fails⟩
      · cases same
        rw [fails]
        rfl
      · cases same
        obtain ⟨⟨w, here⟩, fine⟩ := List.forall_mem_cons.1 fine
        rw [here, ih.2 ⟨before, z, after, rfl, fine, fails⟩]
        rfl

/-- A list passes a check if each of its items does. -/
theorem forM_eq_ok {f : α → Except ε Unit} {xs : List α} :
    xs.forM f = .ok () ↔ ∀ x ∈ xs, f x = .ok () := by
  induction xs with
  | nil => simp [pure, Except.pure]
  | cons x xs ih =>
    rw [List.forM_eq_forM] at ih ⊢
    rw [List.forM_cons, bind_eq_ok, List.forall_mem_cons, ← ih]
    constructor
    · rintro ⟨_, here, there⟩
      exact ⟨here, there⟩
    · rintro ⟨here, there⟩
      exact ⟨(), here, there⟩

/-- What each step of a fold preserves holds of its result. -/
theorem foldlM_invariant {P : β → Prop} {f : β → α → Except ε β} {xs : List α} {b c : β}
    (h : xs.foldlM f b = .ok c) (start : P b)
    (step : ∀ x ∈ xs, ∀ b c, P b → f b x = .ok c → P c) : P c := by
  induction xs generalizing b with
  | nil =>
    cases h
    exact start
  | cons x xs ih =>
    rw [List.foldlM_cons] at h
    obtain ⟨next, hn, h⟩ := bind_eq_ok.1 h
    obtain ⟨here, there⟩ := List.forall_mem_cons.1 step
    exact ih h (here b next start hn) there

/-- A fold fails at the first of its steps that does. -/
theorem foldlM_eq_error {f : β → α → Except ε β} {xs : List α} {b : β} {e : ε} :
    xs.foldlM f b = .error e ↔ ∃ before x after c, xs = before ++ x :: after ∧
      before.foldlM f b = .ok c ∧ f c x = .error e := by
  induction xs generalizing b with
  | nil => simp [pure, Except.pure]
  | cons x xs ih =>
    rw [List.foldlM_cons]
    constructor
    · intro h
      cases here : f b x with
      | error e' =>
        rw [here] at h
        cases h
        exact ⟨[], x, xs, b, rfl, rfl, here⟩
      | ok c =>
        rw [here] at h
        obtain ⟨before, y, after, d, rfl, soFar, fails⟩ := ih.1 h
        exact ⟨x :: before, y, after, d, rfl, by rw [List.foldlM_cons, here]; exact soFar, fails⟩
    · rintro ⟨_ | ⟨y, before⟩, z, after, d, same, soFar, fails⟩
      · cases same
        cases soFar
        rw [fails]
        rfl
      · cases same
        obtain ⟨c, here, soFar⟩ := bind_eq_ok.1 ((List.foldlM_cons ..).symm.trans soFar)
        rw [here]
        exact ih.2 ⟨before, z, after, d, rfl, soFar, fails⟩

theorem exists_of_mem {R : α → β → Prop} {xs : List α} {ys : List β} (h : List.Forall₂ R xs ys)
    {y : β} (hy : y ∈ ys) : ∃ x ∈ xs, R x y := by
  induction h with
  | nil => cases hy
  | @cons x _ _ _ here _ ih =>
    rcases List.mem_cons.1 hy with rfl | hy
    · exact ⟨x, by simp, here⟩
    · obtain ⟨x', hx', related⟩ := ih hy
      exact ⟨x', by simp [hx'], related⟩

end DocStore.Fallible
