import DocStore.Binary64
import DocStore.Words
import Mathlib.Algebra.Group.Nat.Defs

/-!
# Rounding stays finite

Rounding gives a finite number below `2 ^ 2097` units (`Binary64.exists_round?`), of which integers
of 64 bits and their sums are far away (`Binary64.exists_add_ofInt`).
-/

namespace DocStore

theorem roundQuotient_bounds (num den : Nat) :
    num / den ≤ roundQuotient num den ∧ roundQuotient num den ≤ num / den + 1 := by
  unfold roundQuotient
  dsimp only
  split
  · omega
  · split
    · omega
    · split <;> omega

namespace Binary64

theorem ofFields?_eq_some (neg : Bool) {significand exponent : Nat}
    (short : significand < 9007199254740992) (finite : exponent ≤ 2045)
    (normal : exponent = 0 ∨ 4503599627370496 ≤ significand) :
    ofFields? neg significand exponent = some ⟨neg, significand, exponent, short, finite, normal⟩ :=
  dif_pos ⟨short, finite, normal⟩

/-- At the grid exponent a large number has exactly 53 bits. -/
theorem gridExponent_bounds {q : Nat} (large : 9007199254740992 ≤ q) :
    4503599627370496 ≤ q / 2 ^ gridExponent q ∧ q / 2 ^ gridExponent q < 9007199254740992 := by
  have ne : q ≠ 0 := by omega
  have enough : 52 ≤ Nat.log2 q := (Nat.le_log2 ne).2 (by omega)
  have low := Nat.log2_self_le ne
  have high := Nat.lt_log2_self (n := q)
  rw [gridExponent, if_neg (by omega)]
  constructor
  · rw [Nat.le_div_iff_mul_le (Nat.two_pow_pos _)]
    calc 4503599627370496 * 2 ^ (Nat.log2 q - 52) = 2 ^ (52 + (Nat.log2 q - 52)) := by
          rw [Nat.pow_add]
      _ = 2 ^ Nat.log2 q := by rw [Nat.add_sub_cancel' enough]
      _ ≤ q := low
  · rw [Nat.div_lt_iff_lt_mul (Nat.two_pow_pos _)]
    calc q < 2 ^ (Nat.log2 q + 1) := high
      _ = 2 ^ (53 + (Nat.log2 q - 52)) := by congr 1; omega
      _ = 9007199254740992 * 2 ^ (Nat.log2 q - 52) := by rw [Nat.pow_add]

/-- Below the bound the grid exponent leaves room for one more, and the number has at most 53 bits at
it, exactly as many unless the exponent is zero. -/
theorem gridExponent_spec {q : Nat} (small : ∃ n ≤ 2097, q < 2 ^ n) :
    (gridExponent q = 0 ∨ 4503599627370496 ≤ q / 2 ^ gridExponent q) ∧
      q / 2 ^ gridExponent q < 9007199254740992 ∧ 2 ^ gridExponent q ≤ q + 1 ∧
      gridExponent q ≤ 2044 := by
  obtain ⟨n, bound, small⟩ := small
  by_cases large : 9007199254740992 ≤ q
  · obtain ⟨low, high⟩ := gridExponent_bounds large
    have below : 4503599627370496 * 2 ^ gridExponent q ≤ q :=
      (Nat.le_div_iff_mul_le (Nat.two_pow_pos _)).1 low
    have finite : 2 ^ (52 + gridExponent q) < 2 ^ n := by
      rw [Nat.pow_add]
      exact Nat.lt_of_le_of_lt below small
    have := (Nat.pow_lt_pow_iff_right (by decide : 1 < 2)).1 finite
    exact ⟨.inr low, high, by omega, by omega⟩
  · have zero : gridExponent q = 0 := if_pos (Nat.lt_of_not_le large)
    refine ⟨.inl zero, ?_⟩
    rw [zero, Nat.pow_zero, Nat.div_one]
    omega

/-- **Below the bound a quotient is rounded to a finite number**, the nearest point of its grid. -/
theorem exists_round? (neg : Bool) {num den : Nat} (small : ∃ n ≤ 2097, num / den < 2 ^ n) :
    ∃ x, round? neg num den = some x ∧ x.neg = neg ∧
      x.magnitude = roundQuotient num (den * 2 ^ gridExponent (num / den)) *
        2 ^ gridExponent (num / den) := by
  obtain ⟨normal, short, unit, finite⟩ := gridExponent_spec small
  have quotient : num / (den * 2 ^ gridExponent (num / den)) =
      num / den / 2 ^ gridExponent (num / den) := (Nat.div_div_eq_div_mul ..).symm
  obtain ⟨least, most⟩ := roundQuotient_bounds num (den * 2 ^ gridExponent (num / den))
  rw [quotient] at least most
  unfold round?
  dsimp only
  generalize den * 2 ^ gridExponent (num / den) = grid at *
  generalize roundQuotient num grid = s at *
  generalize gridExponent (num / den) = e at *
  split
  · rename_i inside
    exact ⟨_, ofFields?_eq_some neg inside (by omega) (by omega), rfl, rfl⟩
  · rename_i outside
    -- the significand was rounded up to one bit more, which the next exponent takes
    have top : s = 9007199254740992 := by omega
    refine ⟨_, ofFields?_eq_some neg (by decide) (by omega) (.inr (by decide)), rfl, ?_⟩
    change 4503599627370496 * 2 ^ (e + 1) = s * 2 ^ e
    rw [top, Nat.pow_succ]
    omega

/-- Rounding at most doubles a number of units, one aside. -/
theorem rounded_le {num den : Nat} (small : ∃ n ≤ 2097, num / den < 2 ^ n) :
    roundQuotient num (den * 2 ^ gridExponent (num / den)) * 2 ^ gridExponent (num / den) ≤
      2 * (num / den) + 1 := by
  obtain ⟨-, -, unit, -⟩ := gridExponent_spec small
  obtain ⟨-, most⟩ := roundQuotient_bounds num (den * 2 ^ gridExponent (num / den))
  rw [← Nat.div_div_eq_div_mul] at most
  generalize num / den = q at *
  generalize gridExponent q = e at *
  have whole : q / 2 ^ e * 2 ^ e ≤ q := Nat.div_mul_le_self q _
  calc _ ≤ (q / 2 ^ e + 1) * 2 ^ e := Nat.mul_le_mul_right _ most
    _ = q / 2 ^ e * 2 ^ e + 2 ^ e := by rw [Nat.add_mul, Nat.one_mul]
    _ ≤ 2 * q + 1 := by omega

theorem unitsPerOne_pos : 0 < unitsPerOne := by
  unfold unitsPerOne
  generalize 1074 = n
  exact Nat.two_pow_pos n

/-- Integers of 64 bits, and their sums, are far below the bound. -/
theorem exists_bound {q : Nat} (h : q ≤ 2 ^ 66 * unitsPerOne) : ∃ n ≤ 2097, q < 2 ^ n := by
  unfold unitsPerOne at h
  generalize unit : 1074 = n at h
  refine ⟨67 + n, by omega, ?_⟩
  calc q ≤ 2 ^ 66 * 2 ^ n := h
    _ = 2 ^ (66 + n) := (Nat.pow_add 2 66 n).symm
    _ < 2 ^ (67 + n) := Nat.pow_lt_pow_right (by decide) (by omega)

theorem natAbs_units (x : Binary64) : x.units.natAbs = x.magnitude := by
  unfold units
  split <;> omega

theorem natAbs_units_ofInt {i : Int} (fits : FitsInt64 i) :
    (ofInt i).units.natAbs ≤ 2 ^ 65 * unitsPerOne := by
  have positive := unitsPerOne_pos
  have scaled : i.natAbs * unitsPerOne ≤ 9223372036854775808 * unitsPerOne :=
    Nat.mul_le_mul_right _ (by omega)
  have small : ∃ n ≤ 2097, i.natAbs * unitsPerOne / 1 < 2 ^ n := exists_bound (by omega)
  obtain ⟨x, rounded, -, magnitude⟩ := exists_round? (i < 0) small
  have value : ofInt i = x := by rw [ofInt, rounded, Option.getD_some]
  have most := rounded_le small
  rw [value, natAbs_units, magnitude]
  omega

/-- **The sum of two integers of 64 bits is finite.** -/
theorem exists_add_ofInt {i j : Int} (left : FitsInt64 i) (right : FitsInt64 j) :
    ∃ x, (ofInt i).add (ofInt j) = some x := by
  have a := natAbs_units_ofInt left
  have b := natAbs_units_ofInt right
  unfold add
  dsimp only
  split
  · exact ⟨_, rfl⟩
  · obtain ⟨x, rounded, -⟩ := @exists_round? ((ofInt i).units + (ofInt j).units < 0)
      ((ofInt i).units + (ofInt j).units).natAbs 1 (exists_bound (by omega))
    exact ⟨x, rounded⟩

end Binary64

end DocStore
