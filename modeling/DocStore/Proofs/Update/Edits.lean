import DocStore.Proofs.Fallible
import DocStore.Proofs.Json.ChangeLists
import DocStore.Proofs.Json.InPlace
import DocStore.Update

/-!
# Updates edit by edit

An update is worked off one operator at one field after the other (`Update.apply_eq_ok`). Such an edit
amounts to a change at its path (`Update.edit_eq_ok`): it leaves the document as it is, removes the
path, or writes a value at it (`Update.effect_of_apply`).
-/

namespace DocStore.Update

open Fallible (bind_eq_ok)
open Json (PathChange)

/-- One operator at one field, with its operand. -/
structure Edit where
  operator : String
  field : String
  operand : Json

/-- Applies one edit. -/
def Edit.apply (doc : Json) (e : Edit) : Except Fault Json :=
  applyField e.operator doc e.field e.operand

/-- The edits of an update, in order. -/
def edits (update : Json) : List Edit :=
  (update.fields?.getD []).flatMap fun o =>
    (o.2.fields?.getD []).map fun f => ⟨o.1, f.1, f.2⟩

theorem foldlM_applyOperator_eq_ok {operators : Fields} {doc doc' : Json} :
    operators.foldlM (fun d (operator, operands) => applyOperator d operator operands) doc =
        .ok doc' ↔
      (∀ o ∈ operators, o.2.isObject = true) ∧
        (edits (.obj operators)).foldlM Edit.apply doc = .ok doc' := by
  induction operators generalizing doc with
  | nil => exact (and_iff_right fun _ mem => absurd mem List.not_mem_nil).symm
  | cons o operators ih =>
    obtain ⟨operator, operands⟩ := o
    have split : edits (.obj ((operator, operands) :: operators)) =
        (operands.fields?.getD []).map (fun f => ⟨operator, f.1, f.2⟩) ++ edits (.obj operators) := rfl
    rw [List.foldlM_cons, bind_eq_ok, split, List.foldlM_append, bind_eq_ok, List.forall_mem_cons]
    have here (next : Json) : applyOperator doc operator operands = .ok next ↔
        operands.isObject = true ∧ ((operands.fields?.getD []).map fun f =>
          (⟨operator, f.1, f.2⟩ : Edit)).foldlM Edit.apply doc = .ok next := by
      rw [List.foldlM_map]
      cases operands with
      | obj fs => exact (and_iff_right rfl).symm
      | _ => exact iff_of_false nofun fun h => absurd h.1 nofun
    simp only [here, ih]
    constructor
    · rintro ⟨next, ⟨object, first⟩, objects, rest⟩
      exact ⟨⟨object, objects⟩, next, first, rest⟩
    · rintro ⟨⟨object, objects⟩, next, first, rest⟩
      exact ⟨next, ⟨object, first⟩, objects, rest⟩

/-- Operators that can be worked off: there are some, they are named so, and each has its fields. -/
structure Applicable (operators : Fields) : Prop where
  some : operators ≠ []
  named : ∀ o ∈ operators, Text.isOperatorKey o.1 = true
  objects : ∀ o ∈ operators, o.2.isObject = true

/-- **What an update does is what its edits do**, one after the other. -/
theorem apply_eq_ok {operators : Fields} {doc doc' : Json} :
    apply doc (.obj operators) = .ok doc' ↔
      Applicable operators ∧ (edits (.obj operators)).foldlM Edit.apply doc = .ok doc' := by
  have guard : (operators.isEmpty || !operators.all fun f => Text.isOperatorKey f.1) = false ↔
      operators ≠ [] ∧ ∀ o ∈ operators, Text.isOperatorKey o.1 = true := by
    rw [Bool.or_eq_false_iff, Bool.not_eq_false', List.isEmpty_eq_false_iff, List.all_eq_true]
  unfold apply
  dsimp only
  constructor
  · intro h
    split at h
    · cases h
    · rename_i passed
      obtain ⟨some, named⟩ := guard.1 (Bool.eq_false_iff.2 passed)
      obtain ⟨objects, done⟩ := foldlM_applyOperator_eq_ok.1 h
      exact ⟨⟨some, named, objects⟩, done⟩
  · rintro ⟨⟨some, named, objects⟩, done⟩
    rw [guard.2 ⟨some, named⟩, if_neg Bool.false_ne_true]
    exact foldlM_applyOperator_eq_ok.2 ⟨objects, done⟩

/-- An update that goes through is its edits, one after the other. -/
theorem foldlM_edits {doc doc' update : Json} (h : apply doc update = .ok doc') :
    (edits update).foldlM Edit.apply doc = .ok doc' := by
  cases update with
  | obj operators => exact (apply_eq_ok.1 h).2
  | _ => cases h

/-! ## Edits as changes -/

/-- What an edit amounts to in a document: a change at its path. -/
inductive Amounts (doc : Json) : Edit → PathChange → Prop
  | keep {operand : Json} (same : (doc.getPath? "_id").any (·.equals operand) = true) :
    Amounts doc ⟨"$set", "_id", operand⟩ ⟨.ofString "_id", .keep⟩
  | set {field : String} {operand : Json} (other : field ≠ "_id") :
    Amounts doc ⟨"$set", field, operand⟩ ⟨.ofString field, .write operand⟩
  | unset {field : String} {operand : Json} (other : field ≠ "_id") :
    Amounts doc ⟨"$unset", field, operand⟩ ⟨.ofString field, .remove⟩
  | start {field : String} {amount : Number} (other : field ≠ "_id")
    (missing : doc.getPath? field = none) :
    Amounts doc ⟨"$inc", field, .num amount⟩ ⟨.ofString field, .write (.num amount)⟩
  | add {field : String} {amount current : Number} (other : field ≠ "_id")
    (here : doc.getPath? field = some (.num current)) :
    Amounts doc ⟨"$inc", field, .num amount⟩ ⟨.ofString field, .write (sum current amount)⟩
  | append {operator field : String} {operand : Json} {unique : Bool} {added current : List Json}
    (other : field ≠ "_id")
    (pushes : operator = "$push" ∧ unique = false ∨ operator = "$addToSet" ∧ unique = true)
    (items : addedItems operand = .ok added)
    (here : doc.getPath? field = none ∧ current = [] ∨ doc.getPath? field = some (.arr current)) :
    Amounts doc ⟨operator, field, operand⟩
      ⟨.ofString field, .write (.arr (added.foldl (addItem unique) current))⟩

section

variable {doc doc' operand : Json} {field : String} {e : Edit}

theorem write_eq (doc : Json) (field : String) (value : Json) :
    write doc field value = match doc.setPath? field value with
      | some d => .ok d
      | none => .error (.pathBlocked field) := by
  cases made : doc.setPath? field value <;> simp only [write, Json.writePath_eq, made]

theorem write_eq_ok {value : Json} :
    write doc field value = .ok doc' ↔ doc.setPath? field value = some doc' := Json.writePath_eq_ok

/-- Items are added to the array at the path, or to an empty one where there is nothing. -/
theorem push_eq_ok {unique : Bool} :
    push doc field operand unique = .ok doc' ↔
      ∃ added current, addedItems operand = .ok added ∧
        (doc.getPath? field = none ∧ current = [] ∨ doc.getPath? field = some (.arr current)) ∧
        doc.setPath? field (.arr (added.foldl (addItem unique) current)) = some doc' := by
  unfold push
  constructor
  · intro h
    obtain ⟨added, items, h⟩ := bind_eq_ok.1 h
    dsimp only at h
    split at h
    · rename_i missing
      obtain ⟨_, ⟨⟩, h⟩ := bind_eq_ok.1 h
      exact ⟨added, [], items, .inl ⟨missing, rfl⟩, write_eq_ok.1 h⟩
    · rename_i xs here
      obtain ⟨_, ⟨⟩, h⟩ := bind_eq_ok.1 h
      exact ⟨added, xs, items, .inr here, write_eq_ok.1 h⟩
    · obtain ⟨_, ⟨⟩, -⟩ := bind_eq_ok.1 h
  · rintro ⟨added, current, items, read, made⟩
    rw [items]
    rcases read with ⟨missing, rfl⟩ | here
    · rw [missing]
      exact write_eq_ok.2 made
    · rw [here]
      exact write_eq_ok.2 made

/-- **An edit does what it amounts to.** -/
theorem edit_eq_ok : e.apply doc = .ok doc' ↔ ∃ c, Amounts doc e c ∧ c.apply doc = some doc' := by
  constructor
  · intro h
    obtain ⟨operator, field, operand⟩ := e
    simp only [Edit.apply, applyField] at h
    split at h
    · rename_i identifier
      obtain rfl := eq_of_beq identifier
      split at h
      · rename_i kept
        rw [Bool.and_eq_true, beq_iff_eq] at kept
        obtain ⟨rfl, same⟩ := kept
        cases h
        exact ⟨_, .keep same, rfl⟩
      · cases h
    · rename_i guard
      have other : field ≠ "_id" := by simpa using guard
      split at h
      · exact ⟨_, .set other, write_eq_ok.1 h⟩
      · cases h
        exact ⟨_, .unset other, rfl⟩
      · unfold increment at h
        split at h
        · split at h
          · rename_i missing
            exact ⟨_, .start other missing, write_eq_ok.1 h⟩
          · rename_i here
            exact ⟨_, .add other here, write_eq_ok.1 h⟩
          · cases h
        · cases h
      · obtain ⟨added, current, items, read, made⟩ := push_eq_ok.1 h
        exact ⟨_, .append other (.inl ⟨rfl, rfl⟩) items read, made⟩
      · obtain ⟨added, current, items, read, made⟩ := push_eq_ok.1 h
        exact ⟨_, .append other (.inr ⟨rfl, rfl⟩) items read, made⟩
      · cases h
  · rintro ⟨c, amounts, made⟩
    cases amounts with
    | keep same =>
      obtain rfl : doc = doc' := Option.some.inj made
      simp only [Edit.apply, applyField, BEq.rfl, same, Bool.and_self, if_true]
    | set other => exact (if_neg (by simpa using other)).trans (write_eq_ok.2 made)
    | unset other =>
      obtain rfl : _ = doc' := Option.some.inj made
      exact if_neg (by simpa using other)
    | start other missing =>
      refine (if_neg (by simpa using other)).trans ?_
      show increment doc _ _ = _
      rw [increment, missing]
      exact write_eq_ok.2 made
    | add other here =>
      refine (if_neg (by simpa using other)).trans ?_
      show increment doc _ _ = _
      rw [increment, here]
      exact write_eq_ok.2 made
    | append other pushes items read =>
      refine (if_neg (by simpa using other)).trans ?_
      rcases pushes with ⟨rfl, rfl⟩ | ⟨rfl, rfl⟩
      · exact push_eq_ok.2 ⟨_, _, items, read, made⟩
      · exact push_eq_ok.2 ⟨_, _, items, read, made⟩

end

/-- What an edit writes at its field, from what it finds there. -/
inductive Writes (doc : Json) (field operator : String) (operand : Json) : Json → Prop where
  | set (sets : operator = "$set") : Writes doc field operator operand operand
  | start {amount : Number} (increments : operator = "$inc") (number : operand = .num amount)
    (missing : doc.getPath? field = none) : Writes doc field operator operand (.num amount)
  | add {amount current : Number} (increments : operator = "$inc") (number : operand = .num amount)
    (here : doc.getPath? field = some (.num current)) :
    Writes doc field operator operand (sum current amount)
  | append {unique : Bool} {added current : List Json}
    (pushes : operator = "$push" ∨ operator = "$addToSet") (items : addedItems operand = .ok added)
    (here : doc.getPath? field = none ∧ current = [] ∨ doc.getPath? field = some (.arr current)) :
    Writes doc field operator operand (.arr (added.foldl (addItem unique) current))

/-- What an edit makes of a document. Only the value that it has can be written to the identifier. -/
inductive Effect (doc : Json) : Edit → Json → Prop where
  | keep {operator : String} {operand : Json} (sets : operator = "$set")
    (same : (doc.getPath? "_id").any (·.equals operand) = true) :
    Effect doc ⟨operator, "_id", operand⟩ doc
  | remove {operator field : String} {operand : Json} (other : field ≠ "_id")
    (unsets : operator = "$unset") : Effect doc ⟨operator, field, operand⟩ (doc.removePath field)
  | write {operator field : String} {operand value doc' : Json} (other : field ≠ "_id")
    (writes : Writes doc field operator operand value) (set : doc.setPath? field value = some doc') :
    Effect doc ⟨operator, field, operand⟩ doc'

section

variable {doc doc' operand : Json} {field : String}

theorem Writes.ne_unset {operator : String} {value : Json}
    (h : Writes doc field operator operand value) : operator ≠ "$unset" := by
  cases h with
  | append pushes => rcases pushes with rfl | rfl <;> simp
  | set same | start same | add same => simp [same]

/-- **What an edit does to a document**: nothing, or it removes a path, or it writes at one. -/
theorem effect_of_apply {e : Edit} (h : e.apply doc = .ok doc') : Effect doc e doc' := by
  obtain ⟨c, amounts, made⟩ := edit_eq_ok.1 h
  cases amounts with
  | keep same =>
    obtain rfl : doc = doc' := Option.some.inj made
    exact .keep rfl same
  | set other => exact .write other (.set rfl) made
  | unset other =>
    obtain rfl := Option.some.inj made
    exact .remove other rfl
  | start other missing => exact .write other (.start rfl rfl missing) made
  | add other here => exact .write other (.add rfl rfl here) made
  | append other pushes items read =>
    exact .write other (.append (pushes.imp And.left And.left) items read) made

end

/-! ## Items that are added -/

theorem mem_foldl_addItem {unique : Bool} {added current : List Json} {x : Json}
    (h : x ∈ added.foldl (addItem unique) current) : x ∈ added ∨ x ∈ current := by
  induction added generalizing current with
  | nil => exact .inr h
  | cons y added ih =>
    rcases ih h with hx | hx
    · exact .inl (List.mem_cons_of_mem _ hx)
    · unfold addItem at hx
      split at hx
      · exact .inr hx
      · rcases List.mem_append.1 hx with hx | hx
        · exact .inr hx
        · exact .inl (List.mem_singleton.1 hx ▸ List.mem_cons_self ..)

theorem subset_addItem (unique : Bool) (xs : List Json) (x : Json) : xs ⊆ addItem unique xs x := by
  unfold addItem
  split
  · exact List.Subset.refl xs
  · exact List.subset_append_left xs [x]

theorem subset_foldl_addItem (unique : Bool) (added current : List Json) :
    current ⊆ added.foldl (addItem unique) current := by
  induction added generalizing current with
  | nil => exact List.Subset.refl current
  | cons x added ih => exact List.Subset.trans (subset_addItem unique current x) (ih _)

/-- An item is in the array that it is added to, or an equal one is. -/
theorem exists_mem_addItem (unique : Bool) (xs : List Json) (x : Json) :
    ∃ y ∈ addItem unique xs x, y = x ∨ y.equals x = true := by
  unfold addItem
  split
  · rename_i there
    rw [Bool.and_eq_true, List.any_eq_true] at there
    obtain ⟨y, hy, equal⟩ := there.2
    exact ⟨y, hy, .inr equal⟩
  · exact ⟨x, by simp, .inl rfl⟩

/-- Each item that is added is there afterwards, or one that equals it. -/
theorem exists_mem_foldl_addItem {unique : Bool} {added current : List Json} {x : Json}
    (h : x ∈ added) : ∃ y ∈ added.foldl (addItem unique) current, y = x ∨ y.equals x = true := by
  induction added generalizing current with
  | nil => cases h
  | cons z added ih =>
    rcases List.mem_cons.1 h with rfl | h
    · obtain ⟨y, hy, equal⟩ := exists_mem_addItem unique current x
      exact ⟨y, subset_foldl_addItem unique added _ hy, equal⟩
    · exact ih h

end DocStore.Update
