import DocStore.Proofs.Binary64.Monotone
import DocStore.Proofs.Schema.Forms
import DocStore.Proofs.Text.Numerals
import Mathlib.Data.Rat.Cast.Order
import Mathlib.Tactic.FieldSimp
import Mathlib.Tactic.Ring

/-!
# Whole numbers

Coercion to integers is exact: a number has a form exactly if its value is an integer of 64 bits,
and a text exactly if it is the numeral of one, and that integer is the form (`Kind.coerce_int`).
Doubles are held against the doubles nearest to the ends of the range. The lower end is one itself;
the upper end lies between two and is rounded up (`Binary64.units_ofInt_greatest`), so the bound
there is strict, and no integer is lost by it.
-/

namespace DocStore

/-- The value of a double. -/
def Binary64.toRat (x : Binary64) : ℚ :=
  (if x.neg then -1 else 1) * x.significand * (2 : ℚ) ^ ((x.exponent : ℤ) - 1074)

/-- The value of a number. -/
def Number.toRat : Number → ℚ
  | .int i => i
  | .double x => x.toRat

/-- A number as JSON writes it: an integer is one of 64 bits, with a sign or without. -/
def Number.IsWord : Number → Prop
  | .int i => -9223372036854775808 ≤ i ∧ i ≤ 18446744073709551615
  | .double _ => True

namespace Binary64

variable {x : Binary64} {i : Int}

theorem toRat_eq (x : Binary64) : x.toRat = x.units / unitsPerOne := by
  have scale : (2 : ℚ) ^ ((x.exponent : ℤ) - 1074) = 2 ^ x.exponent / unitsPerOne := by
    unfold unitsPerOne
    rw [show (1074 : ℤ) = (1074 : ℕ) from rfl]
    generalize 1074 = grid
    rw [zpow_sub₀ two_ne_zero, zpow_natCast, zpow_natCast, Nat.pow_eq, Nat.cast_pow, Nat.cast_ofNat]
  rw [toRat, scale, ← mul_div_assoc]
  congr 1
  unfold units magnitude
  rw [Nat.pow_eq]
  split <;> push_cast <;> ring

theorem toRat_eq_intCast : x.toRat = i ↔ x.units = i * unitsPerOne := by
  have nonzero : (unitsPerOne : ℚ) ≠ 0 := Nat.cast_ne_zero.2 unitsPerOne_pos.ne'
  rw [toRat_eq, div_eq_iff nonzero, ← Int.cast_natCast, ← Int.cast_mul, Int.cast_inj]

/-- A double is whole if its value is an integer. -/
theorem isIntegral_iff : x.isIntegral = true ↔ ∃ i : Int, x.units = i * unitsPerOne := by
  rw [isIntegral, beq_iff_eq, ← Nat.dvd_iff_mod_eq_zero, ← natAbs_units, ← Int.natCast_dvd]
  simp only [Dvd.dvd, mul_comm]

theorem truncate_of_units (h : x.units = i * unitsPerOne) : x.truncate = i := by
  have nonzero : (unitsPerOne : Int) ≠ 0 := Int.natCast_ne_zero.2 unitsPerOne_pos.ne'
  rw [truncate, h, Int.mul_tdiv_cancel _ nonzero]

/-- The least integer of 64 bits is a double. -/
theorem units_ofInt_least :
    (ofInt (-9223372036854775808)).units = -9223372036854775808 * unitsPerOne := by
  decide +kernel

/-- The greatest integer of 64 bits lies between two doubles, and is rounded up. -/
theorem units_ofInt_greatest :
    (ofInt 9223372036854775807).units = 9223372036854775808 * unitsPerOne := by
  decide +kernel

end Binary64

namespace Kind

variable {n : Number} {x : Binary64} {i : Int}

/-- **A double has the integer of 64 bits that is its value as its form, if there is one.** -/
theorem wholeNumber?_iff : wholeNumber? x = some i ↔ FitsInt64 i ∧ x.toRat = i := by
  have positive : (0 : Int) < Binary64.unitsPerOne := Int.natCast_pos.2 Binary64.unitsPerOne_pos
  have bounds (j : Int) : (-9223372036854775808 * (Binary64.unitsPerOne : Int) ≤
      j * Binary64.unitsPerOne ↔ -9223372036854775808 ≤ j) ∧ (j * Binary64.unitsPerOne <
        9223372036854775808 * (Binary64.unitsPerOne : Int) ↔ j < 9223372036854775808) :=
    ⟨Int.mul_le_mul_iff_of_pos_right positive, Int.mul_lt_mul_right positive⟩
  rw [wholeNumber?, Option.ite_none_right_eq_some, Option.some.injEq, Binary64.isIntegral_iff,
    Binary64.units_ofInt_least, Binary64.units_ofInt_greatest, Binary64.toRat_eq_intCast]
  constructor
  · rintro ⟨⟨⟨j, whole⟩, low, high⟩, rfl⟩
    rw [whole] at low high
    have least := (bounds j).1.1 low
    have greatest := (bounds j).2.1 high
    have cast : x.toInt64 = j := by
      rw [Binary64.toInt64, Binary64.truncate_of_units whole]
      omega
    rw [cast]
    exact ⟨by omega, whole⟩
  · rintro ⟨fits, whole⟩
    refine ⟨⟨⟨i, whole⟩, ?_, ?_⟩, ?_⟩
    · rw [whole]
      exact (bounds i).1.2 fits.1
    · rw [whole]
      exact (bounds i).2.2 (by omega)
    · rw [Binary64.toInt64, Binary64.truncate_of_units whole]
      omega

/-- An unsigned integer beyond the range is rounded to a double that is beyond it too. -/
theorem wholeNumber?_ofInt_eq_none (beyond : 9223372036854775807 < i)
    (word : i ≤ 18446744073709551615) : wholeNumber? (.ofInt i) = none := by
  have above := @Binary64.units_ofInt_mono 9223372036854775807 i (by omega) (by omega) (by omega)
  exact if_neg fun inside => absurd inside.2.2 (Int.not_lt.2 above)

theorem scalarForm?_int_num (word : n.IsWord) {w : Json} :
    int.scalarForm? (.num n) = some w ↔ ∃ i, FitsInt64 i ∧ n.toRat = i ∧ w = .int i := by
  cases n with
  | double x =>
    show (wholeNumber? x).map Json.int = some w ↔ _
    rw [Option.map_eq_some_iff]
    simp only [wholeNumber?_iff, and_assoc, Number.toRat, eq_comm (a := w)]
  | int j =>
    simp only [scalarForm?, Number.toRat, Int.cast_inj]
    by_cases fits : FitsInt64 j
    · rw [Number.asInt64?_eq_some_iff.2 ⟨rfl, fits⟩]
      constructor
      · intro same
        exact ⟨j, fits, rfl, (Option.some.inj same).symm⟩
      · rintro ⟨_, -, rfl, rfl⟩
        rfl
    · have beyond : 9223372036854775807 < j := by
        have low := word.1
        omega
      have none : (Number.int j).asInt64? = none := if_neg fits
      rw [none]
      show (wholeNumber? (.ofInt j)).map Json.int = some w ↔ _
      rw [wholeNumber?_ofInt_eq_none beyond word.2]
      refine iff_of_false (Option.some_ne_none w).symm ?_
      rintro ⟨_, fits', rfl, -⟩
      exact fits fits'

theorem scalarForm?_int_str {s : String} {w : Json} :
    int.scalarForm? (.str s) = some w ↔ ∃ i numeral, Text.Surrounds s.toList numeral ∧
      Text.Numeral numeral i ∧ FitsInt64 i ∧ w = .int i := by
  show (Text.int64? (Text.trim s.toList)).map Json.int = some w ↔ _
  rw [Option.map_eq_some_iff]
  constructor
  · rintro ⟨i, read, rfl⟩
    obtain ⟨numeral, around, value, fits⟩ := Text.int64?_trim_iff.1 read
    exact ⟨i, numeral, around, value, fits, rfl⟩
  · rintro ⟨i, numeral, around, value, fits, rfl⟩
    exact ⟨i, Text.int64?_trim_iff.2 ⟨numeral, around, value, fits⟩, rfl⟩

/-- **Coercion to integers is exact at every boundary.** A number as JSON writes it is accepted
exactly if its value is an integer of 64 bits, and a text exactly if it is the decimal numeral of
one, with an optional sign and white space around it; what comes out is that very integer. -/
theorem coerce_int (field : String) (w : Json) :
    (∀ n : Number, n.IsWord → (int.coerce field (.num n) = .ok w ↔
      ∃ i, FitsInt64 i ∧ n.toRat = i ∧ w = .int i)) ∧
    ∀ s : String, int.coerce field (.str s) = .ok w ↔ ∃ i numeral,
      Text.Surrounds s.toList numeral ∧ Text.Numeral numeral i ∧ FitsInt64 i ∧ w = .int i := by
  have scalar : ∀ element, int ≠ .array element := nofun
  constructor
  · intro n word
    rw [coerce_eq_ok_of_scalar scalar, scalarForm?_int_num word]
  · intro s
    rw [coerce_eq_ok_of_scalar scalar, scalarForm?_int_str]

/-- The least integer of 64 bits as a double, and the one after the greatest, which is an unsigned
integer and a double of the same value. -/
theorem coerce_int_ends :
    let least : Number := .double (.ofInt (-9223372036854775808))
    let beyond : Number := .int 9223372036854775808
    least.IsWord ∧ int.coerce "n" (.num least) = .ok (.int (-9223372036854775808)) ∧
      beyond.IsWord ∧ ∀ w, int.coerce "n" (.num beyond) ≠ .ok w := by
  intro least beyond
  have word : beyond.IsWord := ⟨by decide, by decide⟩
  have value : least.toRat = (-9223372036854775808 : Int) :=
    Binary64.toRat_eq_intCast.2 Binary64.units_ofInt_least
  refine ⟨trivial, ?_, word, fun w accepted => ?_⟩
  · exact ((coerce_int "n" _).1 least trivial).2 ⟨_, by decide, value, rfl⟩
  · obtain ⟨i, fits, same, -⟩ := ((coerce_int "n" w).1 beyond word).1 accepted
    have big : (9223372036854775808 : Int) = i := Int.cast_inj.1 same
    omega

end Kind

end DocStore
