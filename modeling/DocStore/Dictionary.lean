/-!
# Dictionaries

Values under keys, as a list of entries in which the first entry of a key counts. Writing a key
keeps its position, or adds an entry at the end.
-/

namespace DocStore

/-- Values under keys. -/
abbrev Dictionary (κ α : Type) := List (κ × α)

namespace Dictionary

variable {κ α β : Type} [BEq κ]

/-- The value under a key. -/
def get? : Dictionary κ α → κ → Option α
  | [], _ => none
  | e :: rest, k => if k == e.1 then some e.2 else get? rest k

/-- Writes a value under a key. -/
def insert (k : κ) (v : α) : Dictionary κ α → Dictionary κ α
  | [] => [(k, v)]
  | e :: rest => if e.1 == k then (e.1, v) :: rest else e :: insert k v rest

/-- Removes a key. -/
def erase (k : κ) (d : Dictionary κ α) : Dictionary κ α := d.filter fun e => !(e.1 == k)

/-- The dictionary with a function applied to its values. -/
def mapValues (f : α → β) (d : Dictionary κ α) : Dictionary κ β := d.map fun e => (e.1, f e.2)

theorem get?_cons (e : κ × α) (d : Dictionary κ α) (k : κ) :
    get? (e :: d) k = if k == e.1 then some e.2 else get? d k := rfl

theorem get?_mapValues (f : α → β) (d : Dictionary κ α) (k : κ) :
    (mapValues f d).get? k = (d.get? k).map f := by
  induction d with
  | nil => rfl
  | cons e rest ih =>
    change (if k == e.1 then some (f e.2) else (mapValues f rest).get? k) =
      (if k == e.1 then some e.2 else get? rest k).map f
    by_cases h : k == e.1
    · rw [if_pos h, if_pos h]
      rfl
    · rw [if_neg h, if_neg h, ih]

theorem insert_mapValues (f : α → β) (d : Dictionary κ α) (k : κ) (v : α) :
    insert k (f v) (mapValues f d) = mapValues f (insert k v d) := by
  induction d with
  | nil => rfl
  | cons e rest ih =>
    change (if e.1 == k then (e.1, f v) :: mapValues f rest
      else (e.1, f e.2) :: insert k (f v) (mapValues f rest)) =
      mapValues f (if e.1 == k then (e.1, v) :: rest else e :: insert k v rest)
    by_cases h : e.1 == k
    · rw [if_pos h, if_pos h]
      rfl
    · rw [if_neg h, if_neg h, ih]
      rfl

theorem erase_mapValues (f : α → β) (d : Dictionary κ α) (k : κ) :
    erase k (mapValues f d) = mapValues f (erase k d) :=
  List.filter_map

variable [LawfulBEq κ]

theorem get?_cons_self (k : κ) (v : α) (d : Dictionary κ α) : get? ((k, v) :: d) k = some v := by
  simp [get?_cons]

/-- A dictionary without values is empty. -/
theorem eq_nil_of_get? {d : Dictionary κ α} (h : ∀ k, d.get? k = none) : d = [] := by
  cases d with
  | nil => rfl
  | cons e rest => exact absurd ((get?_cons_self e.1 e.2 rest).symm.trans (h e.1)) nofun

theorem get?_cons_of_ne {e : κ × α} {k : κ} (h : k ≠ e.1) (d : Dictionary κ α) :
    get? (e :: d) k = get? d k := by
  simp [get?_cons, beq_eq_false_iff_ne.2 h]

theorem get?_insert_self (d : Dictionary κ α) (k : κ) (v : α) : (insert k v d).get? k = some v := by
  induction d with
  | nil => exact get?_cons_self k v []
  | cons e rest ih =>
    by_cases h : e.1 = k
    · simpa [insert, h] using get?_cons_self k v rest
    · simpa [insert, h] using (get?_cons_of_ne (Ne.symm h) _).trans ih

theorem get?_insert_of_ne {k l : κ} (h : l ≠ k) (d : Dictionary κ α) (v : α) :
    (insert k v d).get? l = d.get? l := by
  induction d with
  | nil => exact get?_cons_of_ne h []
  | cons e rest ih =>
    by_cases hk : e.1 = k
    · subst hk
      simpa [insert] using
        (get?_cons_of_ne (e := (e.1, v)) h rest).trans (get?_cons_of_ne h rest).symm
    · simp [insert, hk, get?_cons, ih]

theorem insert_insert (d : Dictionary κ α) (k : κ) (v w : α) :
    insert k w (insert k v d) = insert k w d := by
  induction d with
  | nil => simp [insert]
  | cons e rest ih =>
    by_cases h : e.1 = k
    · simp [insert, h]
    · simp [insert, h, ih]

theorem get?_erase_self (d : Dictionary κ α) (k : κ) : (erase k d).get? k = none := by
  induction d with
  | nil => rfl
  | cons e rest ih =>
    by_cases h : e.1 = k
    · simpa [erase, h] using ih
    · simpa [erase, h] using (get?_cons_of_ne (Ne.symm h) _).trans ih

theorem get?_erase_of_ne {k l : κ} (h : l ≠ k) (d : Dictionary κ α) :
    (erase k d).get? l = d.get? l := by
  induction d with
  | nil => rfl
  | cons e rest ih =>
    by_cases hk : e.1 = k
    · subst hk
      simpa [erase] using ih.trans (get?_cons_of_ne h rest).symm
    · have ih' : get? (rest.filter fun e => !(e.1 == k)) l = get? rest l := ih
      simp [erase, hk, get?_cons, ih']

end Dictionary

end DocStore
