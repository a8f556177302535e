import DocStore.Proofs.Json.Apart
import DocStore.Proofs.Schema.Registered
import DocStore.Proofs.Schema.Forms
import DocStore.Proofs.Update.Edits
import DocStore.Schema.Validation

/-!
# Items pushed as a list and one by one

An operand of `$push` and `$addToSet` is one item, or a list of them under `$each`. The store adds
the items of a list as it adds them one after the other (`Update.addAt_bind`, `Update.apply_each`).
The validation knows no lists: it takes every operand for an item of the declared array, so a list
passes only where the elements may be objects, whatever its items are
(`Schema.validateUpdate_each`). `Schema.listPushes` says when the two layers agree.
-/

namespace DocStore

open Fallible (bind_eq_ok)

namespace Update

/-! ## Adding to an array -/

/-- The items of the array at a path; a missing one counts as empty. -/
def itemsAt (doc : Json) (field : String) : Except Fault (List Json) :=
  match doc.getPath? field with
  | none => .ok []
  | some (.arr xs) => .ok xs
  | some _ => .error (.arrayTarget field)

/-- Adds items to the array at a path. -/
def addAt (unique : Bool) (field : String) (doc : Json) (added : List Json) : Except Fault Json := do
  let current ← itemsAt doc field
  write doc field (.arr (added.foldl (addItem unique) current))

variable {doc doc' operand : Json} {operator field : String} {unique : Bool}

theorem push_eq : push doc field operand unique = addedItems operand >>= addAt unique field doc := by
  unfold push addAt itemsAt
  congr 1
  funext added
  cases doc.getPath? field with
  | none => rfl
  | some v => cases v <;> rfl

theorem itemsAt_write {xs : List Json} (written : write doc field (.arr xs) = .ok doc') :
    itemsAt doc' field = .ok xs := by
  have there : doc'.getPath? field = some (.arr xs) :=
    Json.getSegments?_setSegments?_self (write_eq_ok.1 written)
  rw [itemsAt, there]

/-- A write goes wrong whatever is written, and the last of two is the one that counts. -/
theorem write_bind (value other : Json) :
    (write doc field value >>= fun d => write d field other) = write doc field other := by
  cases made : doc.setPath? field value with
  | none =>
    have blocked : doc.setPath? field other = none :=
      Json.setPath?_eq_none_iff.2 (Json.setPath?_eq_none_iff.1 made)
    rw [write_eq, write_eq, made, blocked]
    rfl
  | some d =>
    rw [write_eq_ok.2 made]
    show write d field other = write doc field other
    have last : d.setPath? field other = doc.setPath? field other :=
      Json.setSegments?_setSegments? made other
    rw [write_eq, write_eq, last]

/-- **To add some items and then others is to add them all**, errors included. -/
theorem addAt_bind (xs ys : List Json) :
    (addAt unique field doc xs >>= fun d => addAt unique field d ys) =
      addAt unique field doc (xs ++ ys) := by
  unfold addAt
  cases itemsAt doc field with
  | error e => rfl
  | ok current =>
    have last : (write doc field (.arr (xs.foldl (addItem unique) current)) >>= fun d =>
        write d field (.arr ((xs ++ ys).foldl (addItem unique) current))) = write doc field _ :=
      write_bind _ _
    show (write doc field _ >>= fun d => itemsAt d field >>= _) = write doc field _
    cases written : write doc field (.arr (xs.foldl (addItem unique) current)) with
    | error e =>
      rw [written] at last
      exact last
    | ok d =>
      rw [written] at last
      show (itemsAt d field >>= _) = _
      rw [itemsAt_write written, ← last, List.foldl_append]
      rfl

/-- Lists of items added one after the other are added as one list. -/
theorem foldlM_addAt {xss : List (List Json)} (filled : xss ≠ []) :
    xss.foldlM (addAt unique field) doc = addAt unique field doc xss.flatten := by
  induction xss generalizing doc with
  | nil => exact absurd rfl filled
  | cons xs xss ih =>
    rw [List.foldlM_cons, List.flatten_cons]
    cases xss with
    | nil =>
      rw [List.flatten_nil, List.append_nil]
      exact bind_pure _
    | cons ys xss =>
      rw [← addAt_bind]
      congr 1
      funext d
      exact ih (List.cons_ne_nil ys xss)

/-! ## Operands -/

/-- The operand that lists items. -/
def each (vs : List Json) : Json := .obj [("$each", .arr vs)]

@[simp] theorem addedItems_each (vs : List Json) : addedItems (each vs) = .ok vs := rfl

/-- An item that does not say `$each` stands for itself. -/
theorem addedItems_of_get? (plain : operand.get? "$each" = none) :
    addedItems operand = .ok [operand] := by
  rw [addedItems, plain]

/-- The items that an operand adds are the operand alone, or parts of it. -/
theorem addedItems_cases {added : List Json} (h : addedItems operand = .ok added) :
    operand.get? "$each" = none ∧ added = [operand] ∨ operand.get? "$each" = some (.arr added) := by
  unfold addedItems at h
  split at h
  · rename_i xs listed
    cases h
    exact .inr listed
  · cases h
  · rename_i plain
    cases h
    exact .inl ⟨plain, rfl⟩

/-! ## Updates with one operator at one field -/

/-- The update that works an operator off at a field. -/
def pushing (operator field : String) (operand : Json) : Json :=
  .obj [(operator, .obj [(field, operand)])]

/-- The operators that add items. -/
def Pushes (operator : String) : Prop := operator = "$push" ∨ operator = "$addToSet"

/-- Nothing is pushed onto the identifier, and elsewhere the items of the operand are added. -/
theorem apply_pushing (pushes : Pushes operator) :
    apply doc (pushing operator field operand) =
      if field = "_id" then .error .identifierChange
      else addedItems operand >>= addAt (operator == "$addToSet") field doc := by
  have single : apply doc (pushing operator field operand) = applyField operator doc field operand := by
    have key : Text.isOperatorKey operator = true := by
      rcases pushes with rfl | rfl <;> decide
    show (if (false || !(Text.isOperatorKey operator && true)) = true then _ else _) = _
    rw [key]
    exact (bind_pure _).trans (bind_pure _)
  rw [single, ← push_eq]
  unfold applyField
  by_cases identifier : field = "_id"
  · rcases pushes with rfl | rfl <;> simp [identifier]
  · rw [if_neg (by simpa using identifier), if_neg identifier]
    rcases pushes with rfl | rfl <;> rfl

/-- What operands add one after the other, if each of them adds something. -/
theorem foldlM_of_items {vs : List Json} {xss : List (List Json)}
    (items : vs.mapM addedItems = .ok xss) :
    vs.foldlM (fun d v => addedItems v >>= addAt unique field d) doc =
      xss.foldlM (addAt unique field) doc := by
  rw [Fallible.mapM_eq_ok] at items
  induction items generalizing doc with
  | nil => rfl
  | cons here _ ih =>
    rw [List.foldlM_cons, List.foldlM_cons, here]
    show (addAt unique field doc _ >>= _) = _
    congr 1
    funext d
    exact ih

theorem exists_items_of_foldlM {vs : List Json}
    (h : vs.foldlM (fun d v => addedItems v >>= addAt unique field d) doc = .ok doc') :
    ∃ xss, vs.mapM addedItems = .ok xss := by
  induction vs generalizing doc with
  | nil => exact ⟨[], rfl⟩
  | cons v vs ih =>
    obtain ⟨d, first, rest⟩ := bind_eq_ok.1 ((List.foldlM_cons ..).symm.trans h)
    obtain ⟨xs, here, -⟩ := bind_eq_ok.1 first
    obtain ⟨xss, there⟩ := ih rest
    exact ⟨xs :: xss, Fallible.mapM_eq_ok.2 (.cons here (Fallible.mapM_eq_ok.1 there))⟩

/-- Operands that add something, pushed one after the other, add what the list of all their items
adds. -/
theorem foldlM_apply_of_items (pushes : Pushes operator) {vs : List Json} {xss : List (List Json)}
    (filled : vs ≠ []) (items : vs.mapM addedItems = .ok xss) :
    (vs.map (pushing operator field)).foldlM apply doc =
      apply doc (pushing operator field (each xss.flatten)) := by
  simp only [List.foldlM_map, apply_pushing pushes, addedItems_each]
  have lengths := (Fallible.mapM_eq_ok.1 items).length_eq
  by_cases identifier : field = "_id"
  · simp only [if_pos identifier]
    obtain ⟨v, vs, rfl⟩ := List.exists_cons_of_ne_nil filled
    rfl
  · simp only [if_neg identifier]
    have more : xss ≠ [] := by
      rintro rfl
      exact filled (List.length_eq_zero_iff.1 lengths)
    rw [foldlM_of_items items, foldlM_addAt more]
    rfl

/-- **Pushes one after the other do what the push of the list of all their items does.** -/
theorem foldlM_apply_eq_ok (pushes : Pushes operator) {vs : List Json} (filled : vs ≠ []) :
    (vs.map (pushing operator field)).foldlM apply doc = .ok doc' ↔
      ∃ xss, vs.mapM addedItems = .ok xss ∧
        apply doc (pushing operator field (each xss.flatten)) = .ok doc' := by
  constructor
  · intro h
    have items : ∃ xss, vs.mapM addedItems = .ok xss := by
      simp only [List.foldlM_map, apply_pushing pushes] at h
      by_cases identifier : field = "_id"
      · obtain ⟨v, vs, rfl⟩ := List.exists_cons_of_ne_nil filled
        simp only [if_pos identifier] at h
        cases h
      · simp only [if_neg identifier] at h
        exact exists_items_of_foldlM h
    obtain ⟨xss, items⟩ := items
    exact ⟨xss, items, (foldlM_apply_of_items pushes filled items).symm.trans h⟩
  · rintro ⟨xss, items, h⟩
    exact (foldlM_apply_of_items pushes filled items).trans h

/-- **Items that do not say `$each` are pushed one by one as they are pushed in a list**, errors
included. -/
theorem apply_each (pushes : Pushes operator) {vs : List Json} (filled : vs ≠ [])
    (plain : ∀ v ∈ vs, v.get? "$each" = none) :
    apply doc (pushing operator field (each vs)) =
      (vs.map (pushing operator field)).foldlM apply doc := by
  have alone : vs.mapM addedItems = .ok (vs.map fun v => [v]) :=
    Fallible.mapM_eq_map fun v hv => addedItems_of_get? (plain v hv)
  rw [foldlM_apply_of_items pushes filled alone, ← List.flatMap_def, List.flatMap_singleton']

/-! ## Lists of lists -/

/-- How large the items of a list are together. -/
noncomputable def bulk : List Json → Nat
  | [] => 0
  | v :: vs => sizeOf v + bulk vs

theorem bulk_append (vs ws : List Json) : bulk (vs ++ ws) = bulk vs + bulk ws := by
  induction vs with
  | nil => exact (Nat.zero_add _).symm
  | cons v vs ih =>
    rw [List.cons_append, bulk, bulk, ih]
    omega

theorem bulk_le (vs : List Json) : bulk vs ≤ sizeOf vs := by
  induction vs with
  | nil => exact Nat.zero_le _
  | cons v vs ih =>
    rw [bulk, List.cons.sizeOf_spec]
    omega

/-- What is listed under `$each` is smaller than the operand. -/
theorem bulk_lt {v : Json} {xs : List Json} (listed : v.get? "$each" = some (.arr xs)) :
    bulk xs < sizeOf v := by
  cases v with
  | obj fs =>
    have mem := Fields.mem_of_get? listed
    have field := List.sizeOf_lt_of_mem mem
    have items := bulk_le xs
    rw [Prod.mk.sizeOf_spec, Json.arr.sizeOf_spec] at field
    rw [Json.obj.sizeOf_spec]
    omega
  | _ => cases listed

/-- The items that operands add are smaller than the operands, unless they are the operands. -/
theorem bulk_flatten {vs : List Json} {xss : List (List Json)}
    (items : List.Forall₂ (fun v xs => addedItems v = .ok xs) vs xss) :
    bulk xss.flatten ≤ bulk vs ∧
      (bulk xss.flatten = bulk vs → ∀ v ∈ vs, v.get? "$each" = none) := by
  induction items with
  | nil => exact ⟨Nat.le_refl _, fun _ _ mem => absurd mem List.not_mem_nil⟩
  | @cons v xs vs xss here _ ih =>
    obtain ⟨le, same⟩ := ih
    rw [List.flatten_cons, bulk_append, bulk, List.forall_mem_cons]
    rcases addedItems_cases here with ⟨plain, rfl⟩ | listed
    · have single : bulk [v] = sizeOf v := Nat.add_zero _
      rw [single]
      exact ⟨by omega, fun equal => ⟨plain, same (by omega)⟩⟩
    · have less := bulk_lt listed
      exact ⟨by omega, fun equal => by omega⟩

theorem foldl_addItem_false (added current : List Json) :
    added.foldl (addItem false) current = current ++ added := by
  induction added generalizing current with
  | nil => exact (List.append_nil current).symm
  | cons x added ih =>
    rw [List.foldl_cons, ih]
    exact List.append_assoc current [x] added

/-- Different lists make different documents. -/
theorem eq_of_addAt {xs ys : List Json} (hx : addAt false field doc xs = .ok doc')
    (hy : addAt false field doc ys = .ok doc') : xs = ys := by
  obtain ⟨current, read, wx⟩ := bind_eq_ok.1 hx
  obtain ⟨_, read', wy⟩ := bind_eq_ok.1 hy
  obtain rfl := Except.ok.inj (read.symm.trans read')
  have same := Except.ok.inj ((itemsAt_write wx).symm.trans (itemsAt_write wy))
  rw [foldl_addItem_false, foldl_addItem_false] at same
  exact List.append_cancel_left same

/-- **Pushes one by one agree with the push of a list only if no item says `$each`.** -/
theorem plain_of_foldlM_apply {vs : List Json} (filled : vs ≠ [])
    (together : apply doc (pushing "$push" field (each vs)) = .ok doc')
    (apart : (vs.map (pushing "$push" field)).foldlM apply doc = .ok doc') :
    ∀ v ∈ vs, v.get? "$each" = none := by
  have pushes : Pushes "$push" := .inl rfl
  obtain ⟨xss, items, all⟩ := (foldlM_apply_eq_ok pushes filled).1 apart
  rw [apply_pushing pushes] at together all
  split at together
  · cases together
  · rename_i other
    rw [if_neg other] at all
    have same : vs = xss.flatten := eq_of_addAt together all
    exact (bulk_flatten (Fallible.mapM_eq_ok.1 items)).2 (congrArg bulk same.symm)

end Update

namespace Kind

/-- The kinds of values that an object is one of. -/
def HoldsObjects (k : Kind) : Prop := k = .any ∨ k = .object

instance (k : Kind) : Decidable k.HoldsObjects := inferInstanceAs (Decidable (_ ∨ _))

theorem coerce_obj (k : Kind) (field : String) (fs : Fields) :
    k.coerce field (.obj fs) = if k.HoldsObjects then .ok (.obj fs)
      else .error (.validation field (.kind k) (.value (.obj fs))) := by
  cases k <;> rfl

/-- Kinds that hold objects leave values as they are. -/
theorem coerces_iff_of_holdsObjects {k : Kind} (holds : k.HoldsObjects) (v w : Json) :
    k.Coerces v w ↔ (k = .any ∨ v.isObject = true) ∧ v = w := by
  rcases holds with rfl | rfl
  · simp [Coerces, scalarForm?]
  · cases v <;> simp [Coerces, scalarForm?, Json.isObject]

end Kind

namespace Schema

open Update (Pushes addedItems each pushing)

/-- An update passes the validation. -/
def Accepts (s : Schema) (update : Json) : Prop := ∃ update', s.validateUpdate update = .ok update'

section

variable {s : Schema} {d : FieldDef} {element : Kind} {operator field : String}

/-- An operand that is pushed onto a declared array is validated as one element of it. -/
theorem validateUpdate_pushing (declared : s.field? field = some d)
    (kind : d.type.kind = .array element) (pushes : Pushes operator) (v : Json) :
    s.validateUpdate (pushing operator field v) =
      (element.coerce field v).map (pushing operator field) := by
  have operand : validateOperand operator field d v = element.coerce field v := by
    rcases pushes with rfl | rfl <;> rw [validateOperand, kind]
  have operands : s.validateOperands operator [(field, v)] =
      (element.coerce field v).map fun w => [(field, w)] := by
    rw [validateOperands, declared]
    show (validateOperand operator field d v >>= _) = _
    rw [operand]
    cases element.coerce field v <;> rfl
  show (s.validateOperators [(operator, .obj [(field, v)])]).map Json.obj = _
  rw [validateOperators, operands]
  cases element.coerce field v <;> rfl

/-- **A list of items is validated as one object**: it passes unchanged where the elements may be
objects and is refused elsewhere, whatever its items are. -/
theorem validateUpdate_each (declared : s.field? field = some d)
    (kind : d.type.kind = .array element) (pushes : Pushes operator) (vs : List Json) :
    s.validateUpdate (pushing operator field (each vs)) =
      if element.HoldsObjects then .ok (pushing operator field (each vs))
      else .error (.validation field (.kind element) (.value (each vs))) := by
  rw [validateUpdate_pushing declared kind pushes, each, Kind.coerce_obj]
  split <;> rfl

theorem accepts_pushing (declared : s.field? field = some d)
    (kind : d.type.kind = .array element) (pushes : Pushes operator) (v : Json) :
    s.Accepts (pushing operator field v) ↔ ∃ w, element.Coerces v w := by
  simp only [Accepts, validateUpdate_pushing declared kind pushes, Fallible.map_eq_ok,
    Kind.coerce_eq_ok]
  constructor
  · rintro ⟨_, w, form, -⟩
    exact ⟨w, form⟩
  · rintro ⟨w, form⟩
    exact ⟨_, w, form, rfl⟩

/-- What the validation makes of the push of a list, and of the pushes of its items. -/
structure Passes (s : Schema) (operator field : String) (vs : List Json) (list : Json)
    (items : List Json) : Prop where
  list : s.validateUpdate (pushing operator field (each vs)) = .ok list
  items : vs.mapM (fun v => s.validateUpdate (pushing operator field v)) = .ok items

/-- What passes the validation both as a list and item by item is left as it is. -/
theorem Passes.unchanged (declared : s.field? field = some d) (kind : d.type.kind = .array element)
    (pushes : Pushes operator) {vs : List Json} {list : Json} {items : List Json}
    (h : s.Passes operator field vs list items) :
    list = pushing operator field (each vs) ∧ items = vs.map (pushing operator field) := by
  have passed := h.list
  rw [validateUpdate_each declared kind pushes] at passed
  split at passed
  · rename_i holds
    refine ⟨(Except.ok.inj passed).symm, ?_⟩
    have same := Fallible.mapM_eq_ok.1 h.items
    clear h passed
    induction same with
    | nil => rfl
    | @cons v u _ _ here _ ih =>
      rw [validateUpdate_pushing declared kind pushes] at here
      obtain ⟨w, form, rfl⟩ := Fallible.map_eq_ok.1 here
      obtain ⟨-, rfl⟩ := (Kind.coerces_iff_of_holdsObjects holds v w).1 (Kind.coerce_eq_ok.1 form)
      rw [List.map_cons, ← ih]
  · cases passed

/-- How the push of a list compares with the pushes of its items, through a schema that declares
arrays of a kind. -/
structure ListPushes (s : Schema) (operator field : String) (element : Kind) (vs : List Json) :
    Prop where
  /-- The list is taken for one item. -/
  list_validated : s.validateUpdate (pushing operator field (each vs)) =
    if element.HoldsObjects then .ok (pushing operator field (each vs))
    else .error (.validation field (.kind element) (.value (each vs)))
  item_accepted (v : Json) : s.Accepts (pushing operator field v) ↔ ∃ w, element.Coerces v w
  /-- When a list passes exactly if its items do. -/
  accepted_iff : (s.Accepts (pushing operator field (each vs)) ↔
      ∀ v ∈ vs, s.Accepts (pushing operator field v)) ↔
    element = .any ∨ element = .object ∧ (∀ v ∈ vs, v.isObject = true) ∨
      ¬ element.HoldsObjects ∧ ∃ v ∈ vs, ¬ s.Accepts (pushing operator field v)
  /-- One by one, items add what stands under their own `$each`. -/
  items_applied {list : Json} {items : List Json} (passes : s.Passes operator field vs list items)
    (doc doc' : Json) : items.foldlM Update.apply doc = .ok doc' ↔
      ∃ xss, vs.mapM addedItems = .ok xss ∧
        Update.apply doc (pushing operator field (each xss.flatten)) = .ok doc'
  /-- Items without one do to every document what the list does, or fail as it does. -/
  applied_alike {list : Json} {items : List Json} (passes : s.Passes operator field vs list items)
    (plain : ∀ v ∈ vs, v.get? "$each" = none) (doc : Json) :
    Update.apply doc list = items.foldlM Update.apply doc
  /-- Of lists that are pushed, only those do. -/
  only_plain {list : Json} {items : List Json} (passes : s.Passes operator field vs list items)
    (pushed : operator = "$push") {doc doc' : Json} (together : Update.apply doc list = .ok doc')
    (apart : items.foldlM Update.apply doc = .ok doc') : ∀ v ∈ vs, v.get? "$each" = none

theorem accepts_alike_iff (declared : s.field? field = some d)
    (kind : d.type.kind = .array element) (pushes : Pushes operator) (vs : List Json) :
    (s.Accepts (pushing operator field (each vs)) ↔
        ∀ v ∈ vs, s.Accepts (pushing operator field v)) ↔
      element = .any ∨ element = .object ∧ (∀ v ∈ vs, v.isObject = true) ∨
        ¬ element.HoldsObjects ∧ ∃ v ∈ vs, ¬ s.Accepts (pushing operator field v) := by
  have list : s.Accepts (pushing operator field (each vs)) ↔ element.HoldsObjects := by
    rw [Accepts, validateUpdate_each declared kind pushes]
    split
    · rename_i holds
      exact iff_of_true ⟨_, rfl⟩ holds
    · rename_i refused
      exact iff_of_false nofun refused
  rw [list]
  by_cases holds : element.HoldsObjects
  · have item (v : Json) :
        s.Accepts (pushing operator field v) ↔ element = .any ∨ v.isObject = true := by
      simp only [accepts_pushing declared kind pushes, Kind.coerces_iff_of_holdsObjects holds]
      exact ⟨fun ⟨_, passes, _⟩ => passes, fun passes => ⟨v, passes, rfl⟩⟩
    simp only [item, holds, true_iff, not_true, false_and, or_false]
    rcases holds with rfl | rfl
    · simp
    · simp
  · have neither := not_or.1 holds
    simp [holds, neither.1, neither.2]

/-- **The push of a list and the pushes of its items**, through a schema that declares the field as
an array. -/
theorem listPushes (declared : s.field? field = some d) (kind : d.type.kind = .array element)
    (pushes : Pushes operator) {vs : List Json} (filled : vs ≠ []) :
    s.ListPushes operator field element vs where
  list_validated := validateUpdate_each declared kind pushes vs
  item_accepted := accepts_pushing declared kind pushes
  accepted_iff := accepts_alike_iff declared kind pushes vs
  items_applied passes doc doc' := by
    obtain ⟨-, rfl⟩ := passes.unchanged declared kind pushes
    exact Update.foldlM_apply_eq_ok pushes filled
  applied_alike passes plain doc := by
    obtain ⟨rfl, rfl⟩ := passes.unchanged declared kind pushes
    exact Update.apply_each pushes filled plain
  only_plain passes pushed doc doc' together apart := by
    obtain ⟨rfl, rfl⟩ := passes.unchanged declared kind pushes
    subst pushed
    exact Update.plain_of_foldlM_apply filled together apart

/-- Numbers added to a set, in a list and one by one. -/
theorem listPushes_numbers :
    let s := (Schema.mk "c" []).define "ns" (.optional ⟨"array", .array .any, {}⟩)
    let vs : List Json := [.int 1, .int 2, .int 1]
    let doc : Json := .obj [("ns", .arr [.int 2])]
    let doc' : Json := .obj [("ns", .arr [.int 2, .int 1])]
    vs ≠ [] ∧ Pushes "$addToSet" ∧
      s.field? "ns" = some (.optional ⟨"array", .array .any, {}⟩) ∧
      s.Accepts (pushing "$addToSet" "ns" (each vs)) ∧
      (∀ v ∈ vs, s.Accepts (pushing "$addToSet" "ns" v)) ∧
      Update.apply doc (pushing "$addToSet" "ns" (each vs)) = .ok doc' ∧
      (vs.map (pushing "$addToSet" "ns")).foldlM Update.apply doc = .ok doc' := by
  have together : Update.apply (.obj [("ns", .arr [.int 2])])
      (pushing "$addToSet" "ns" (each [.int 1, .int 2, .int 1])) =
        .ok (.obj [("ns", .arr [.int 2, .int 1])]) := by rfl
  intro s vs doc doc'
  have declared : s.field? "ns" = some (.optional ⟨"array", .array .any, {}⟩) := by rfl
  have pushes : Pushes "$addToSet" := .inr rfl
  have filled : vs ≠ [] := List.cons_ne_nil _ _
  have h : s.ListPushes "$addToSet" "ns" .any vs := listPushes declared rfl pushes filled
  have list : s.Accepts (pushing "$addToSet" "ns" (each vs)) := ⟨_, h.list_validated⟩
  have passes : s.Passes "$addToSet" "ns" vs (pushing "$addToSet" "ns" (each vs))
      (vs.map (pushing "$addToSet" "ns")) := ⟨h.list_validated, by rfl⟩
  have plain : ∀ v ∈ vs, v.get? "$each" = none := by decide
  exact ⟨filled, pushes, declared, list, (h.accepted_iff.2 (.inl rfl)).1 list, together,
    (h.applied_alike passes plain doc).symm.trans together⟩

/-- A list of texts is refused where each of them is taken, though the store could push it. -/
theorem not_accepts_texts :
    let s := (Schema.mk "c" []).define "tags" (.optional ⟨"array", .array .string, {}⟩)
    let vs : List Json := [.str "b", .str "c"]
    s.Registered ∧ (∀ v ∈ vs, s.Accepts (pushing "$push" "tags" v)) ∧
      ¬ s.Accepts (pushing "$push" "tags" (each vs)) ∧
      Update.apply (.obj [("tags", .arr [.str "a"])]) (pushing "$push" "tags" (each vs)) =
        .ok (.obj [("tags", .arr [.str "a", .str "b", .str "c"])]) := by
  have pushed : Update.apply (.obj [("tags", .arr [.str "a"])])
      (pushing "$push" "tags" (each [.str "b", .str "c"])) =
        .ok (.obj [("tags", .arr [.str "a", .str "b", .str "c"])]) := by rfl
  intro s vs
  have registered : s.Registered := ⟨.define (.empty _) _ _, {}, ⟨[s]⟩, by rfl⟩
  have taken : ∀ v ∈ vs, s.Accepts (pushing "$push" "tags" v) := by
    simp only [vs, List.forall_mem_cons]
    exact ⟨⟨_, rfl⟩, ⟨_, rfl⟩, nofun⟩
  have refused : ¬ s.Accepts (pushing "$push" "tags" (each vs)) := nofun
  exact ⟨registered, taken, refused, pushed⟩

end

end Schema

end DocStore
