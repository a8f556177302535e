import DocStore.Text.Blank
import DocStore.Text.Numeral
import Mathlib.Data.Nat.Digits.Defs
import Mathlib.Data.List.Induction

/-!
# Numerals in texts

The value of a run of digits is the number that they write to the base ten (`Text.digitsValue_eq`). A
text is read as an integer of 64 bits exactly if it is a decimal numeral of one, with an optional
sign (`Text.int64?_iff`). Where white space is trimmed first, it may stand on either side of the
numeral and nowhere else (`Text.int64?_trim_iff`).
-/

namespace DocStore.Text

/-- A natural number in decimal digits, with any number of zeros before it. -/
structure Natural (ds : List Char) (n : Nat) : Prop where
  filled : ds ≠ []
  digits : ∀ c ∈ ds, c.isDigit = true
  value : Nat.ofDigits 10 (ds.reverse.map fun c => c.toNat - '0'.toNat) = n

/-- An integer as a decimal numeral with an optional sign. -/
inductive Numeral : List Char → Int → Prop where
  | plain {ds : List Char} {n : Nat} (natural : Natural ds n) : Numeral ds n
  | positive {ds : List Char} {n : Nat} (natural : Natural ds n) : Numeral ('+' :: ds) n
  | negative {ds : List Char} {n : Nat} (natural : Natural ds n) : Numeral ('-' :: ds) (-n)

/-- A text is another one with white space around it. -/
def Surrounds (cs core : List Char) : Prop :=
  ∃ front back, cs = front ++ core ++ back ∧ (∀ c ∈ front, isBlank c = true) ∧
    ∀ c ∈ back, isBlank c = true

variable {cs ds core : List Char} {n : Nat} {i : Int}

/-! ## Values of digits -/

theorem digitsValue_append_singleton (ds : List Char) (c : Char) :
    digitsValue (ds ++ [c]) = digitsValue ds * 10 + (c.toNat - '0'.toNat) := by
  simp [digitsValue]

theorem digitsValue_append (ds es : List Char) :
    digitsValue (ds ++ es) = digitsValue ds * 10 ^ es.length + digitsValue es := by
  induction es using List.reverseRecOn with
  | nil => simp [digitsValue]
  | append_singleton es c ih =>
    rw [← List.append_assoc, digitsValue_append_singleton, digitsValue_append_singleton, ih,
      List.length_append, List.length_singleton, Nat.pow_succ, Nat.add_mul, Nat.mul_assoc,
      Nat.add_assoc]

/-- A run of digits is less than the power of ten of its length. -/
theorem digitsValue_lt (h : ∀ c ∈ ds, c.isDigit = true) : digitsValue ds < 10 ^ ds.length := by
  induction ds using List.reverseRecOn with
  | nil => simp [digitsValue]
  | append_singleton ds c ih =>
    obtain ⟨front, last⟩ := List.forall_mem_append.1 h
    have digit : c.toNat - '0'.toNat < 10 := by
      have range := last c (by simp)
      simp only [Char.isDigit, Bool.and_eq_true, decide_eq_true_eq, UInt32.le_iff_toNat_le] at range
      have nine : c.toNat ≤ 57 := range.2
      have zero : '0'.toNat = 48 := rfl
      omega
    have before := ih front
    rw [digitsValue_append_singleton, List.length_append, List.length_singleton, Nat.pow_succ]
    omega

/-! ## Reading numerals -/

theorem digitsValue_eq (ds : List Char) :
    digitsValue ds = Nat.ofDigits 10 (ds.reverse.map fun c => c.toNat - '0'.toNat) := by
  induction ds using List.reverseRecOn with
  | nil => rfl
  | append_singleton ds c ih =>
    rw [digitsValue_append_singleton, ih, List.reverse_append, List.reverse_singleton,
      List.singleton_append, List.map_cons, Nat.ofDigits_cons]
    omega

theorem digits?_iff : digits? cs = some n ↔ Natural cs n := by
  rw [digits?, Option.ite_none_right_eq_some, Bool.and_eq_true, Bool.not_eq_true',
    List.isEmpty_eq_false_iff, List.all_eq_true, Option.some.injEq, digitsValue_eq]
  constructor
  · rintro ⟨⟨filled, digits⟩, value⟩
    exact ⟨filled, digits, value⟩
  · rintro ⟨filled, digits, value⟩
    exact ⟨⟨filled, digits⟩, value⟩

/-- A sign is no digit, so that a numeral is read in one way only. -/
theorem integer?_iff : integer? cs = some i ↔ Numeral cs i := by
  constructor
  · intro read
    unfold integer? at read
    split at read
    all_goals
      obtain ⟨_, widened, rfl⟩ := Option.map_eq_some_iff.1 read
      obtain ⟨n, digits, same⟩ := Option.bind_eq_some_iff.1 widened
      cases same
    · exact .negative (digits?_iff.1 digits)
    · exact .positive (digits?_iff.1 digits)
    · exact .plain (digits?_iff.1 digits)
  · intro numeral
    cases numeral with
    | negative natural => simp [integer?, digits?_iff.2 natural]
    | positive natural => simp [integer?, digits?_iff.2 natural]
    | plain natural =>
      have sign {c : Char} {rest : List Char} (h : cs = c :: rest) : c.isDigit = true :=
        natural.digits c (by rw [h]; exact List.mem_cons_self)
      unfold integer?
      split
      · exact absurd (sign rfl) (by decide)
      · exact absurd (sign rfl) (by decide)
      · rw [digits?_iff.2 natural]
        rfl

/-- **A text is read as an integer of 64 bits exactly if it is a numeral of one.** -/
theorem int64?_iff : int64? cs = some i ↔ Numeral cs i ∧ FitsInt64 i := by
  rw [int64?, ← integer?_iff]
  constructor
  · intro read
    obtain ⟨j, integer, fits⟩ := Option.bind_eq_some_iff.1 read
    obtain ⟨fits, same⟩ := Option.ite_none_right_eq_some.1 fits
    cases same
    exact ⟨integer, fits⟩
  · rintro ⟨integer, fits⟩
    exact Option.bind_eq_some_iff.2 ⟨i, integer, if_pos fits⟩

/-! ## White space -/

theorem isBlank_of_isDigit {c : Char} (h : c.isDigit = true) : isBlank c = false := by
  simp only [Char.isDigit, Bool.and_eq_true, decide_eq_true_eq, UInt32.le_iff_toNat_le] at h
  have low : 48 ≤ c.toNat := h.1
  have high : c.toNat ≤ 57 := h.2
  simp only [isBlank, Bool.or_eq_false_iff, Bool.and_eq_false_iff, decide_eq_false_iff_not,
    beq_eq_false_iff_ne]
  omega

/-- White space before a text is skipped. -/
theorem dropWhile_gap {gap : List Char} {c : Char} (h : ∀ c ∈ gap, isBlank c = true)
    (filled : isBlank c = false) (tail : List Char) :
    (gap ++ c :: tail).dropWhile isBlank = c :: tail := by
  rw [List.dropWhile_append_of_pos h, List.dropWhile_cons_of_neg (by simp [filled])]

theorem exists_gap (cs : List Char) :
    ∃ gap, (∀ c ∈ gap, isBlank c = true) ∧ cs = gap ++ cs.dropWhile isBlank :=
  ⟨cs.takeWhile isBlank, fun c => List.all_eq_true.1 List.all_takeWhile c,
    List.takeWhile_append_dropWhile.symm⟩

theorem surrounds_trim (cs : List Char) : Surrounds cs (trim cs) := by
  obtain ⟨front, blank, rest⟩ := exists_gap cs
  obtain ⟨back, blank', rest'⟩ := exists_gap (cs.dropWhile isBlank).reverse
  refine ⟨front, back.reverse, ?_, blank, fun c hc => blank' c (List.mem_reverse.1 hc)⟩
  rw [trim, List.append_assoc, ← List.reverse_append, ← rest', List.reverse_reverse, ← rest]

/-- A text that neither begins nor ends with white space is what is left of it. -/
theorem trim_of_surrounds (h : Surrounds cs core)
    (first : ∃ c rest, core = c :: rest ∧ isBlank c = false)
    (last : ∃ rest c, core = rest ++ [c] ∧ isBlank c = false) : trim cs = core := by
  obtain ⟨front, back, rfl, blank, blank'⟩ := h
  have opened : (front ++ core ++ back).dropWhile isBlank = core ++ back := by
    obtain ⟨c, rest, rfl, filled⟩ := first
    rw [List.append_assoc, List.cons_append, dropWhile_gap blank filled]
  have closed : (core ++ back).reverse.dropWhile isBlank = core.reverse := by
    obtain ⟨rest, c, rfl, filled⟩ := last
    rw [List.reverse_append, List.reverse_append, List.reverse_singleton, List.singleton_append]
    exact dropWhile_gap (fun c hc => blank' c (List.mem_reverse.1 hc)) filled _
  rw [trim, opened, closed, List.reverse_reverse]

theorem Natural.first (h : Natural ds n) : ∃ c rest, ds = c :: rest ∧ isBlank c = false := by
  obtain ⟨c, rest, rfl⟩ := List.exists_cons_of_ne_nil h.filled
  exact ⟨c, rest, rfl, isBlank_of_isDigit (h.digits c List.mem_cons_self)⟩

theorem Natural.last (h : Natural ds n) : ∃ rest c, ds = rest ++ [c] ∧ isBlank c = false :=
  ⟨ds.dropLast, ds.getLast h.filled, (List.dropLast_concat_getLast h.filled).symm,
    isBlank_of_isDigit (h.digits _ (List.getLast_mem h.filled))⟩

theorem Numeral.first (h : Numeral cs i) : ∃ c rest, cs = c :: rest ∧ isBlank c = false := by
  cases h with
  | plain natural => exact natural.first
  | positive => exact ⟨_, _, rfl, by decide⟩
  | negative => exact ⟨_, _, rfl, by decide⟩

theorem Numeral.last (h : Numeral cs i) : ∃ rest c, cs = rest ++ [c] ∧ isBlank c = false := by
  cases h with
  | plain natural => exact natural.last
  | positive natural | negative natural =>
    obtain ⟨rest, c, rfl, filled⟩ := natural.last
    exact ⟨_ :: rest, c, rfl, filled⟩

/-- **What is read where white space is trimmed.** -/
theorem int64?_trim_iff :
    int64? (trim cs) = some i ↔ ∃ numeral, Surrounds cs numeral ∧ Numeral numeral i ∧ FitsInt64 i := by
  rw [int64?_iff]
  constructor
  · rintro ⟨numeral, fits⟩
    exact ⟨trim cs, surrounds_trim cs, numeral, fits⟩
  · rintro ⟨core, around, numeral, fits⟩
    rw [trim_of_surrounds around numeral.first numeral.last]
    exact ⟨numeral, fits⟩

end DocStore.Text
