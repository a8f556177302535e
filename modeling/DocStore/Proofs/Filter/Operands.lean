import DocStore.Proofs.Query.Answers
import DocStore.Proofs.Regex.Literal
import DocStore.Proofs.Schema.Forms

/-!
# Operands of filters

What the compiler writes under the key of an operator decides the predicate it was written for
(`Predicate.decides_operand`).

A substring is the one operand that the compiler does not try out as a pattern. One that is too
large for a pattern is only found out when a document is looked at.
-/

namespace DocStore

namespace Predicate

open Query (Decides)
open Fallible (bind_eq_ok mapM_eq_ok)

/-- An operand that is an object was given as it is, and does not look like operators. -/
theorem not_isOperatorDocument {types : FieldLookup} {field : String} {op : Operator} {v : Json}
    {fs : Fields} (h : coerceOperand types field op v = .ok (.obj fs)) :
    Query.isOperatorDocument fs = false := by
  obtain ⟨_, plain, h⟩ := bind_eq_ok.1 h
  have same : v = .obj fs := by
    split at h
    · exact Except.ok.inj h
    · split at h
      · cases h
      · split at h
        · exact (Kind.coerce_eq_ok.1 h).eq_of_obj
        · exact (Kind.coerce_eq_ok.1 h).eq_of_obj
        · obtain ⟨w, hw, h⟩ := bind_eq_ok.1 h
          dsimp only at h
          split at h
          · obtain ⟨_, -, h⟩ := bind_eq_ok.1 h
            cases h
            exact (Kind.coerce_eq_ok.1 hw).eq_of_obj
          · cases h
            exact (Kind.coerce_eq_ok.1 hw).eq_of_obj
  subst same
  simp only [checkPlain] at plain
  split at plain
  · cases plain
  · rename_i none
    rw [List.find?_eq_none] at none
    cases fs with
    | nil => rfl
    | cons f rest =>
      have plain := none f (List.mem_cons_self ..)
      simp [Query.isOperatorDocument, plain]

/-- The operand of a membership test is a list. -/
theorem exists_list_of_operand {types : FieldLookup} {p : Predicate} {w : Json}
    (list : p.operator.takesList = true) (h : p.operand types = .ok w) : ∃ xs, w = .arr xs := by
  obtain ⟨field, op, v⟩ := p
  cases op <;> simp only [Operator.takesList, Bool.or_eq_true, beq_iff_eq, reduceCtorEq, or_self,
    or_true, true_or] at list
  all_goals
    cases v with
    | arr xs =>
      obtain ⟨ys, -, h⟩ := bind_eq_ok.1 h
      exact ⟨ys, (Except.ok.inj h).symm⟩
    | _ => cases h

/-- The operand of a pattern is one that was read without a fault. -/
theorem exists_pattern_of_operand {types : FieldLookup} {field : String} {v w : Json}
    (h : operand types ⟨field, .regex, v⟩ = .ok w) :
    ∃ pattern r, v = .str pattern ∧ w = .str pattern ∧ Regex.ofString pattern = .ok r := by
  cases v with
  | str pattern =>
    simp only [operand] at h
    split at h
    · rename_i r hr
      exact ⟨pattern, r, rfl, (Except.ok.inj h).symm, hr⟩
    · cases h
  | _ => cases h

/-- The operand of a substring is its pattern. -/
theorem exists_needle_of_operand {types : FieldLookup} {field : String} {v w : Json}
    (h : operand types ⟨field, .contains, v⟩ = .ok w) :
    ∃ needle, v = .str needle ∧ w = .str (Regex.escape needle) := by
  cases v with
  | str needle =>
    simp only [operand] at h
    split at h
    · split at h
      · exact ⟨needle, rfl, (Except.ok.inj h).symm⟩
      · cases h
    · exact ⟨needle, rfl, (Except.ok.inj h).symm⟩
  | _ => cases h

theorem searchable_of_ne {p : Predicate} (h : p.operator ≠ .contains) : p.Searchable :=
  fun contains => absurd contains h

/-- Apart from a substring, what is meant is what stands in the query. -/
theorem holds_iff_of_ne {types : FieldLookup} {doc w : Json} {p : Predicate}
    (other : p.operator ≠ .contains) (h : p.operand types = .ok w) :
    p.operator.Holds (doc.getPath? p.field) w ↔ p.Holds types doc := by
  have meant : p.meant types = .ok w := by
    rw [← h]
    unfold Predicate.meant
    split
    · contradiction
    · rfl
  rw [Predicate.Holds, meant]
  constructor
  · intro hold
    exact ⟨w, rfl, hold⟩
  · rintro ⟨w', same, hold⟩
    cases same
    exact hold

theorem decides_of_ne {types : FieldLookup} {doc w : Json} {p : Predicate} {b : Bool}
    (other : p.operator ≠ .contains) (h : p.operand types = .ok w)
    (e : b = true ↔ p.operator.Holds (doc.getPath? p.field) w) :
    Decides (.ok b) (p.Holds types doc) (¬ p.Searchable) := by
  refine (Query.decides_ok b).congr (e.trans (holds_iff_of_ne other h)) ?_
  simp [searchable_of_ne other]

/-- A substring is searched for by its pattern, if the pattern is not too large. -/
theorem decides_contains {types : FieldLookup} {doc : Json} {field needle : String} :
    Decides (Query.satisfies (doc.getPath? field) "" (Operator.contains).queryKey
        (.str (Regex.escape needle)))
      (Holds types doc ⟨field, .contains, .str needle⟩)
      (¬ Searchable ⟨field, .contains, .str needle⟩) := by
  cases hr : Regex.ofString (Regex.escape needle) with
  | error fault =>
    have large : fault = .tooLarge := Regex.eq_tooLarge_of_escape hr
    subst large
    refine .inl ⟨Query.satisfies_badPattern _ hr, ?_⟩
    intro fits
    obtain ⟨r, ok⟩ := fits rfl needle rfl
    rw [hr] at ok
    cases ok
  | ok r =>
    simp only [Operator.queryKey]
    rw [Query.satisfies_regex _ hr]
    have fits : Searchable ⟨field, .contains, .str needle⟩ := by
      intro _ needle' same
      cases same
      exact ⟨r, hr⟩
    refine (Query.decides_ok _).congr ?_ (by simp [fits])
    rw [Query.any_matchesPattern]
    constructor
    · rintro ⟨s, hs, hm⟩
      exact ⟨.str needle, rfl, needle, s, rfl, hs, (Regex.isMatch_escape hr s).1 hm⟩
    · rintro ⟨_, meant, _, s, same, hs, hm⟩
      cases meant
      cases same
      exact ⟨s, hs, (Regex.isMatch_escape hr s).2 hm⟩

/-- **An operand under the key of its operator decides the predicate**, unless it is a substring
that is too large. -/
theorem decides_operand {types : FieldLookup} {doc w : Json} {p : Predicate}
    (h : p.operand types = .ok w) :
    Decides (Query.satisfies (doc.getPath? p.field) "" p.operator.queryKey w)
      (p.Holds types doc) (¬ p.Searchable) := by
  obtain ⟨field, op, v⟩ := p
  cases op with
  | eq => exact decides_of_ne (by simp) h Query.equalTo_iff
  | gt | gte | lt | lte => exact decides_of_ne (by simp) h (Query.comparesTo_iff (by decide))
  | isIn =>
    obtain ⟨xs, rfl⟩ := exists_list_of_operand rfl h
    apply decides_of_ne (by simp) h
    simp [Operator.Holds, List.any_eq_true, Query.equalTo_iff]
  | notIn =>
    obtain ⟨xs, rfl⟩ := exists_list_of_operand rfl h
    apply decides_of_ne (by simp) h
    simp [Operator.Holds, ← Query.equalTo_iff]
  | regex =>
    obtain ⟨pattern, r, rfl, rfl, hr⟩ := exists_pattern_of_operand h
    simp only [Operator.queryKey]
    rw [Query.satisfies_regex _ hr]
    apply decides_of_ne (by simp) h
    rw [Query.any_matchesPattern]
    constructor
    · rintro ⟨s, hs, hm⟩
      exact ⟨pattern, r, s, rfl, hr, hs, hm⟩
    · rintro ⟨_, _, s, same, hr', hs, hm⟩
      cases same
      rw [hr] at hr'
      cases hr'
      exact ⟨s, hs, hm⟩
  | contains =>
    obtain ⟨needle, rfl, rfl⟩ := exists_needle_of_operand h
    exact decides_contains
  | «exists» =>
    obtain ⟨b, rfl⟩ := (Kind.coerce_eq_ok.1 h).form
    apply decides_of_ne (by simp) h
    rw [beq_iff_eq]
    constructor
    · intro present
      exact ⟨b, rfl, present⟩
    · rintro ⟨_, same, present⟩
      cases same
      exact present

end Predicate

end DocStore
