import DocStore.Proofs.Binary64.Rounding

/-!
# Rounding keeps the order

The greater of two numbers is not rounded to less (`Binary64.rounded_mono`), so that the doubles
nearest to integers of 64 bits are in the order of the integers (`Binary64.units_ofInt_mono`). Up to
`2 ^ 53` they are the integers themselves (`Binary64.units_ofInt_of_small`).
-/

namespace DocStore

theorem roundQuotient_mono {a b : Nat} (den : Nat) (le : a ≤ b) :
    roundQuotient a den ≤ roundQuotient b den := by
  rcases Nat.lt_or_eq_of_le (Nat.div_le_div_right le : a / den ≤ b / den) with less | same
  · calc roundQuotient a den ≤ a / den + 1 := (roundQuotient_bounds a den).2
      _ ≤ b / den := less
      _ ≤ roundQuotient b den := (roundQuotient_bounds b den).1
  · -- in one interval between points of the grid, the remainders decide
    have remainder : a % den ≤ b % den := by
      have whole := Nat.div_add_mod a den
      have whole' := Nat.div_add_mod b den
      rw [same] at whole
      omega
    unfold roundQuotient
    dsimp only
    rw [same]
    repeat' split
    all_goals omega

namespace Binary64

theorem gridExponent_mono {a b : Nat} (le : a ≤ b) : gridExponent a ≤ gridExponent b := by
  unfold gridExponent
  split
  · omega
  · have ne : a ≠ 0 := by omega
    have log : Nat.log2 a ≤ Nat.log2 b :=
      (Nat.le_log2 (by omega)).2 (Nat.le_trans (Nat.log2_self_le ne) le)
    rw [if_neg (by omega)]
    omega

/-- A number of units at the nearest point of its grid. -/
def rounded (q : Nat) : Nat := roundQuotient q (2 ^ gridExponent q) * 2 ^ gridExponent q

theorem rounded_mono {a b : Nat} (le : a ≤ b) : rounded a ≤ rounded b := by
  unfold rounded
  rcases Nat.lt_or_eq_of_le (gridExponent_mono le) with coarser | same
  · -- on a coarser grid even the least number is as large as any on the finer one
    have large : 9007199254740992 ≤ b := by
      refine Nat.le_of_not_lt fun small => ?_
      rw [gridExponent, gridExponent, if_pos small] at coarser
      exact Nat.not_lt_zero _ coarser
    have short : a / 2 ^ gridExponent a < 9007199254740992 := by
      by_cases small : a < 9007199254740992
      · exact Nat.lt_of_le_of_lt (Nat.div_le_self _ _) small
      · exact (gridExponent_bounds (Nat.le_of_not_lt small)).2
    calc _ ≤ 9007199254740992 * 2 ^ gridExponent a :=
          Nat.mul_le_mul_right _ (Nat.le_trans (roundQuotient_bounds _ _).2 short)
      _ = 4503599627370496 * 2 ^ (gridExponent a + 1) := by rw [Nat.pow_succ]; omega
      _ ≤ 4503599627370496 * 2 ^ gridExponent b :=
          Nat.mul_le_mul_left _ (Nat.pow_le_pow_right (by decide) coarser)
      _ ≤ _ := Nat.mul_le_mul_right _
          (Nat.le_trans (gridExponent_bounds large).1 (roundQuotient_bounds _ _).1)
  · rw [same]
    exact Nat.mul_le_mul_right _ (roundQuotient_mono _ le)

theorem units_ofInt {i : Int} (word : i.natAbs ≤ 18446744073709551615) : (ofInt i).units =
    if i < 0 then -(rounded (i.natAbs * unitsPerOne) : Int)
    else rounded (i.natAbs * unitsPerOne) := by
  have positive := unitsPerOne_pos
  have scaled : i.natAbs * unitsPerOne ≤ 18446744073709551615 * unitsPerOne :=
    Nat.mul_le_mul_right _ word
  have small : ∃ n ≤ 2097, i.natAbs * unitsPerOne / 1 < 2 ^ n := exists_bound (by omega)
  obtain ⟨x, value, sign, magnitude⟩ := exists_round? (i < 0) small
  have magnitude' : x.magnitude = rounded (i.natAbs * unitsPerOne) := by
    rw [magnitude, rounded, Nat.div_one, Nat.one_mul]
  rw [ofInt, value, Option.getD_some, units, sign, magnitude']
  simp only [decide_eq_true_eq]

/-- A point of its grid is not rounded. -/
theorem rounded_of_dvd {q : Nat} (exact : 2 ^ gridExponent q ∣ q) : rounded q = q := by
  have remainder : q % 2 ^ gridExponent q = 0 := Nat.mod_eq_zero_of_dvd exact
  have quotient : roundQuotient q (2 ^ gridExponent q) = q / 2 ^ gridExponent q := by
    unfold roundQuotient
    dsimp only
    rw [if_pos (by rw [remainder]; exact Nat.two_pow_pos _)]
  rw [rounded, quotient, Nat.div_mul_cancel exact]

/-- The grid at a whole number of up to 53 bits is no coarser than one, or two at the bound. -/
theorem dvd_of_small {n t : Nat} (small : n ≤ 9007199254740992) :
    2 ^ gridExponent (n * 2 ^ t) ∣ n * 2 ^ t := by
  unfold gridExponent
  split
  · exact Nat.one_dvd _
  · have log := Nat.log2_self_le (n := n * 2 ^ t) (by omega)
    have most : 2 ^ Nat.log2 (n * 2 ^ t) ≤ 2 ^ (53 + t) :=
      calc _ ≤ n * 2 ^ t := log
        _ ≤ 9007199254740992 * 2 ^ t := Nat.mul_le_mul_right _ small
        _ = 2 ^ (53 + t) := by rw [Nat.pow_add]
    have bound := (Nat.pow_le_pow_iff_right (by decide : 1 < 2)).1 most
    rcases Nat.lt_or_eq_of_le bound with below | top
    · exact Nat.dvd_mul_left_of_dvd (Nat.pow_dvd_pow 2 (by omega)) n
    · rw [top, Nat.pow_add] at log
      have full : n = 9007199254740992 :=
        Nat.le_antisymm small (Nat.le_of_mul_le_mul_right log (Nat.two_pow_pos t))
      rw [top, full]
      exact ⟨2 ^ 52, by rw [← Nat.pow_add, show 53 + t - 52 + 52 = 53 + t by omega, Nat.pow_add]⟩

/-- **Integers up to `2 ^ 53` are doubles.** -/
theorem units_ofInt_of_small {i : Int} (small : i.natAbs ≤ 9007199254740992) :
    (ofInt i).units = i * unitsPerOne := by
  have exact : rounded (i.natAbs * unitsPerOne) = i.natAbs * unitsPerOne := by
    unfold unitsPerOne
    generalize 1074 = t
    exact rounded_of_dvd (dvd_of_small small)
  rw [units_ofInt (by omega), exact, Int.natCast_mul]
  split
  · rw [show (i.natAbs : Int) = -i by omega, Int.neg_mul, Int.neg_neg]
  · rw [show (i.natAbs : Int) = i by omega]

/-- **The doubles nearest to integers of 64 bits are in the order of the integers**, with a sign or
without. -/
theorem units_ofInt_mono {i j : Int} (left : i.natAbs ≤ 18446744073709551615)
    (right : j.natAbs ≤ 18446744073709551615) (le : i ≤ j) :
    (ofInt i).units ≤ (ofInt j).units := by
  have scaled {a b : Nat} (le : a ≤ b) : rounded (a * unitsPerOne) ≤ rounded (b * unitsPerOne) :=
    rounded_mono (Nat.mul_le_mul_right _ le)
  rw [units_ofInt left, units_ofInt right]
  by_cases negative : j < 0
  · have closer := scaled (by omega : j.natAbs ≤ i.natAbs)
    rw [if_pos negative, if_pos (by omega)]
    omega
  · have further := @scaled i.natAbs j.natAbs
    rw [if_neg negative]
    split <;> omega

end Binary64

end DocStore
