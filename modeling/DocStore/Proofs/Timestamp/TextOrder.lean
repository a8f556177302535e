import DocStore.Proofs.Timestamp.Calendar

/-!
# The texts of timestamps are in the order of time

Strings are compared character by character, and numbers padded to one width are compared as
numbers (`Timestamp.compare_padded`). The text of a timestamp of the years 0 to 9999 is a row of
such numbers, from the year down to the milliseconds, with the same marks in between, so the order
of the texts is that of the instants in milliseconds (`Timestamp.compare_text`).
-/

namespace DocStore

/-! ## Strings -/

theorem compare_chars (xs ys : List Char) :
    compare xs ys = if xs < ys then .lt else if xs = ys then .eq else .gt := by
  induction xs generalizing ys with
  | nil =>
    cases ys with
    | nil => rfl
    | cons y ys => rfl
  | cons x xs ih =>
    cases ys with
    | nil => rfl
    | cons y ys =>
      have first : compare x y = if x < y then .lt else if x = y then .eq else .gt := rfl
      rw [List.compare_cons_cons, ih, first]
      simp only [List.cons_lt_cons_iff, List.cons.injEq]
      by_cases less : x < y
      · simp [less]
      · by_cases same : x = y
        · simp [same]
        · simp [less, same]

/-- Strings are compared as the lists of their characters. -/
theorem compare_toList (a b : String) : compare a b = compare a.toList b.toList := by
  have whole : compare a b = if a < b then .lt else if a = b then .eq else .gt := rfl
  rw [whole, compare_chars]
  simp only [String.lt_iff, String.toList_inj]

/-- Texts of one length decide before what follows them. -/
theorem compare_append {xs ys : List Char} (h : xs.length = ys.length) (xs' ys' : List Char) :
    compare (xs ++ xs') (ys ++ ys') = (compare xs ys).then (compare xs' ys') := by
  induction xs generalizing ys with
  | nil =>
    obtain rfl := List.length_eq_zero_iff.1 h.symm
    rfl
  | cons x xs ih =>
    cases ys with
    | nil => cases h
    | cons y ys =>
      rw [List.cons_append, List.cons_append, List.compare_cons_cons, List.compare_cons_cons,
        ih (Nat.succ.inj h), Ordering.then_assoc]

theorem compare_cons (c : Char) (xs ys : List Char) :
    compare (c :: xs) (c :: ys) = compare xs ys := by
  rw [List.compare_cons_cons, Std.compare_self]
  rfl

namespace Timestamp

/-! ## Numbers of one width -/

theorem compare_digitChar : ∀ m < 10, ∀ n < 10,
    compare [Nat.digitChar m] [Nat.digitChar n] = compare m n := by
  decide

/-- **Padded numbers are in the order of the numbers.** -/
theorem compare_padded {width m n : Nat} (hm : m < 10 ^ width) (hn : n < 10 ^ width) :
    compare (padded width m) (padded width n) = compare m n := by
  induction width generalizing m n with
  | zero =>
    obtain rfl : m = 0 := by omega
    obtain rfl : n = 0 := by omega
    rfl
  | succ width ih =>
    rw [Nat.pow_succ] at hm hn
    have front : compare (padded width (m / 10)) (padded width (n / 10)) = compare (m / 10) (n / 10) :=
      ih (by omega) (by omega)
    have last := compare_digitChar (m % 10) (Nat.mod_lt _ (by decide)) (n % 10)
      (Nat.mod_lt _ (by decide))
    have long : (padded width (m / 10)).length = (padded width (n / 10)).length := by
      rw [length_padded, length_padded]
    rw [padded, padded, compare_append long, front, last]
    apply compare_then
    · omega
    · omega
    · intro same
      apply compare_congr
      · omega
      · omega
      · omega

/-- A padded number decides before what follows it. -/
theorem compare_padded_append {width m n : Nat} (hm : m < 10 ^ width) (hn : n < 10 ^ width)
    (xs ys : List Char) :
    compare (padded width m ++ xs) (padded width n ++ ys) = (compare m n).then (compare xs ys) := by
  have long : (padded width m).length = (padded width n).length := by
    rw [length_padded, length_padded]
  rw [compare_append long, compare_padded hm hn]

/-! ## Texts -/

/-- In a leap second, the sixtieth of its minute, the milliseconds are written from its beginning. -/
theorem secondOf_millisOf {t : Timestamp} (regular : t.Regular) : t.millisOf < 1000 ∧
    (t.secondOf = t.second % 60 ∧ t.nanos / nanosPerMilli = t.millisOf ∨
      t.second % 60 = 59 ∧ t.secondOf = 60 ∧ t.nanos / nanosPerMilli = t.millisOf + 1000) := by
  have nanos := regular.nanos
  by_cases leap : nanosPerSecond ≤ t.nanos
  · rw [secondOf, millisOf, if_pos leap, if_pos leap]
    simp only [nanosPerSecond, nanosPerMilli] at *
    omega
  · rw [secondOf, millisOf, if_neg leap, if_neg leap]
    refine ⟨?_, .inl ⟨rfl, rfl⟩⟩
    simp only [nanosPerSecond, nanosPerMilli] at *
    omega

/-- The milliseconds of a day up to a timestamp, where every second has room for a leap second. -/
def timeNumber (t : Timestamp) : Nat := 2000 * t.second + t.nanos / nanosPerMilli

variable {t u : Timestamp}

/-- The four numbers of a time are in the order of the times of a day. -/
theorem compare_timeNumber (ht : t.Regular) (hu : u.Regular) :
    (compare (t.second / 3600) (u.second / 3600)).then
      ((compare (t.second / 60 % 60) (u.second / 60 % 60)).then
        ((compare t.secondOf u.secondOf).then (compare t.millisOf u.millisOf))) =
      compare t.timeNumber u.timeNumber := by
  have ht := secondOf_millisOf ht
  have hu := secondOf_millisOf hu
  rw [timeNumber, timeNumber]
  apply compare_then
  · omega
  · omega
  · intro hour
    apply compare_then
    · omega
    · omega
    · intro minute
      apply compare_then
      · omega
      · omega
      · intro second
        apply compare_congr
        · omega
        · omega
        · omega

/-- Instants in milliseconds are in the order of days and of the times of a day. -/
theorem compare_toMillis (ht : t.Regular) (hu : u.Regular) :
    (compare t.date.dayNumber u.date.dayNumber).then (compare t.timeNumber u.timeNumber) =
      compare t.instant.toMillis u.instant.toMillis := by
  have written := secondOf_millisOf ht
  have others := secondOf_millisOf hu
  have inside := ht.second
  have within := hu.second
  show _ = (compare (86400 * t.date.dayNumber + (t.second : Int))
    (86400 * u.date.dayNumber + (u.second : Int))).then
      (compare (t.nanos / nanosPerMilli * nanosPerMilli) (u.nanos / nanosPerMilli * nanosPerMilli))
  -- both are the order of one number, the milliseconds since the year 0
  let whole (v : Timestamp) : Int := 2000 * 86400 * v.date.dayNumber + v.timeNumber
  calc
    _ = compare (whole t) (whole u) := by
      simp only [whole, timeNumber]
      apply compare_then
      · omega
      · omega
      · intro day
        apply compare_congr
        · omega
        · omega
        · omega
    _ = _ := by
      simp only [whole, timeNumber]
      symm
      apply compare_then
      · omega
      · omega
      · intro second
        apply compare_congr
        · simp only [nanosPerMilli] at *
          omega
        · simp only [nanosPerMilli] at *
          omega
        · simp only [nanosPerMilli] at *
          omega

theorem compare_yearText {m n : Int} (hm : 0 ≤ m ∧ m ≤ 9999) (hn : 0 ≤ n ∧ n ≤ 9999)
    (xs ys : List Char) :
    compare (yearText m ++ xs) (yearText n ++ ys) = (compare m n).then (compare xs ys) := by
  have years : compare m.toNat n.toNat = compare m n := by
    apply compare_congr
    · omega
    · omega
    · omega
  rw [yearText, if_pos hm, yearText, if_pos hn,
    compare_padded_append (by omega) (by omega), years]

/-- **Texts are in the order of time**: those of the years 0 to 9999 are compared as the instants are
in milliseconds. -/
theorem compare_text (ht : t.Regular) (hu : u.Regular) (year : 0 ≤ t.date.year ∧ t.date.year ≤ 9999)
    (year' : 0 ≤ u.date.year ∧ u.date.year ≤ 9999) :
    compare t.text u.text = compare t.instant.toMillis u.instant.toMillis := by
  have written := secondOf_millisOf ht
  have others := secondOf_millisOf hu
  have inside := ht.second
  have within := hu.second
  have valid := Date.isValid_iff.1 ht.date
  have valid' := Date.isValid_iff.1 hu.date
  have days := Date.daysInMonth_le t.date.year t.date.month
  have days' := Date.daysInMonth_le u.date.year u.date.month
  rw [← compare_toMillis ht hu, ← compare_timeNumber ht hu, ← Date.compare_dayNumber ht.date hu.date,
    compare_toList, text_eq, text_eq, String.toList_ofList, String.toList_ofList,
    compare_yearText year year', compare_cons, compare_padded_append (by omega) (by omega),
    compare_cons, compare_padded_append (by omega) (by omega), compare_cons,
    compare_padded_append (by omega) (by omega), compare_cons,
    compare_padded_append (by omega) (by omega), compare_cons,
    compare_padded_append (by omega) (by omega), compare_cons,
    compare_padded_append (by omega) (by omega), Std.compare_self, Ordering.then_eq]
  simp only [Ordering.then_assoc]

end Timestamp

end DocStore
