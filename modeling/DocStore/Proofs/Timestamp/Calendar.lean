import DocStore.Proofs.Timestamp.ReadBack

/-!
# The time line

The days of the calendar have numbers (`Date.dayNumber`), which go up by one from a day to the next
and are in the order of the days. An instant is a second on the line that the days make up, with
nanoseconds (`Instant`). The instant of a local time is as far from that of the same time in UTC
as its offset says, whatever day, month or year it is shifted into (`Timestamp.instant_ofLocal`).
-/

namespace DocStore

section

variable {α β : Type} [Ord α] [LT α] [LE α] [Std.LawfulOrderOrd α] [Std.LawfulOrderLT α]
  [Std.LawfulEqOrd α] [Ord β] [LT β] [LE β] [Std.LawfulOrderOrd β] [Std.LawfulOrderLT β]
  {a a' : α} {n n' : β}

/-- Numbers that put first things first are compared as the things are, one after the other. -/
theorem compare_then {rest : Ordering} (less : a < a' → n < n') (greater : a' < a → n' < n)
    (same : a = a' → rest = compare n n') : (compare a a').then rest = compare n n' := by
  cases order : compare a a' with
  | lt => exact (Std.compare_eq_lt.2 (less (Std.compare_eq_lt.1 order))).symm
  | eq => exact same (Std.compare_eq_iff_eq.1 order)
  | gt => exact (Std.compare_eq_gt.2 (greater (Std.compare_eq_gt.1 order))).symm

theorem compare_congr [Std.LawfulEqOrd β] (less : a < a' → n < n') (greater : a' < a → n' < n)
    (same : a = a' → n = n') : compare a a' = compare n n' := by
  have step : (compare a a').then .eq = compare n n' :=
    compare_then less greater fun equal => (Std.compare_eq_iff_eq.2 (same equal)).symm
  rwa [Ordering.then_eq] at step

end

/-! ## Days -/

namespace Date

/-- How many days there are between the first day of the year 0 and the first day of a year. -/
def daysBeforeYear (year : Int) : Int :=
  365 * year + (year + 3) / 4 - (year + 99) / 100 + (year + 399) / 400

/-- How many days of a year come before a month. -/
def daysBeforeMonth (year : Int) : Nat → Nat
  | 0 => 0
  | 1 => 0
  | month + 2 => daysBeforeMonth year (month + 1) + daysInMonth year (month + 1)

/-- The number of a day, counted from the first day of the year 0. -/
def dayNumber (d : Date) : Int :=
  daysBeforeYear d.year + daysBeforeMonth d.year d.month + (d.day - 1)

section

variable {year : Int} {month later : Nat} {d e : Date}

theorem daysBeforeMonth_one (year : Int) : daysBeforeMonth year 1 = 0 := rfl

theorem daysBeforeMonth_succ (year : Int) (h : 1 ≤ month) :
    daysBeforeMonth year (month + 1) = daysBeforeMonth year month + daysInMonth year month := by
  obtain ⟨m, rfl⟩ := Nat.exists_eq_add_of_le' h
  rfl

/-- A year is over with its twelfth month. -/
theorem daysBeforeYear_succ (year : Int) :
    daysBeforeYear (year + 1) = daysBeforeYear year + daysBeforeMonth year 13 := by
  have months : daysBeforeMonth year 13 =
      0 + 31 + daysInMonth year 2 + 31 + 30 + 31 + 30 + 31 + 31 + 30 + 31 + 30 + 31 := rfl
  have february : daysInMonth year 2 = if isLeapYear year then 29 else 28 := rfl
  rw [months, february, daysBeforeYear, daysBeforeYear]
  simp only [isLeapYear, Bool.and_eq_true, Bool.or_eq_true, beq_iff_eq, bne_iff_ne]
  split
  · omega
  · omega

theorem daysBeforeMonth_mono (year : Int) (first : 1 ≤ month) (h : month ≤ later) :
    daysBeforeMonth year month ≤ daysBeforeMonth year later := by
  obtain ⟨m, rfl⟩ := Nat.exists_eq_add_of_le h
  clear h
  induction m with
  | zero => exact Nat.le_refl _
  | succ m ih =>
    have next := daysBeforeMonth_succ year (Nat.le_add_right_of_le first : 1 ≤ month + m)
    rw [Nat.add_assoc] at next
    omega

theorem daysBeforeYear_mono {year later : Int} (h : year ≤ later) :
    daysBeforeYear year ≤ daysBeforeYear later := by
  unfold daysBeforeYear
  omega

theorem month_le_dayNumber (valid : d.isValid = true) :
    daysBeforeYear d.year + daysBeforeMonth d.year d.month ≤ d.dayNumber := by
  rw [isValid_iff] at valid
  rw [dayNumber]
  omega

/-- A day comes before the next month begins. -/
theorem dayNumber_lt_month (valid : d.isValid = true) :
    d.dayNumber < daysBeforeYear d.year + daysBeforeMonth d.year (d.month + 1) := by
  rw [isValid_iff] at valid
  rw [dayNumber, daysBeforeMonth_succ d.year valid.1]
  omega

/-- A day comes before the next year begins. -/
theorem dayNumber_lt_year (valid : d.isValid = true) :
    d.dayNumber < daysBeforeYear (d.year + 1) := by
  have month := dayNumber_lt_month valid
  rw [isValid_iff] at valid
  have last := daysBeforeMonth_mono d.year (by omega : 1 ≤ d.month + 1) (by omega : _ ≤ 13)
  rw [daysBeforeYear_succ]
  omega

theorem dayNumber_lt_of_year (hd : d.isValid = true) (he : e.isValid = true)
    (h : d.year < e.year) : d.dayNumber < e.dayNumber := by
  have before := dayNumber_lt_year hd
  have years := daysBeforeYear_mono (Int.add_one_le_of_lt h)
  have after := month_le_dayNumber he
  omega

theorem dayNumber_lt_of_month (hd : d.isValid = true) (he : e.isValid = true)
    (same : d.year = e.year) (h : d.month < e.month) : d.dayNumber < e.dayNumber := by
  have before := dayNumber_lt_month hd
  have months := daysBeforeMonth_mono e.year (by omega : 1 ≤ d.month + 1) (by omega : _ ≤ e.month)
  have after := month_le_dayNumber he
  rw [same] at before
  omega

/-- **Days are in the order of their numbers**: by year, then by month, then by day. -/
theorem compare_dayNumber (hd : d.isValid = true) (he : e.isValid = true) :
    (compare d.year e.year).then ((compare d.month e.month).then (compare d.day e.day)) =
      compare d.dayNumber e.dayNumber := by
  apply compare_then
  · exact dayNumber_lt_of_year hd he
  · exact dayNumber_lt_of_year he hd
  · intro year
    apply compare_then
    · exact dayNumber_lt_of_month hd he year
    · exact dayNumber_lt_of_month he hd year.symm
    · intro month
      rw [dayNumber, dayNumber, year, month]
      apply compare_congr
      · omega
      · omega
      · omega

/-- **The day after has the next number**, also over the end of a month or of a year. -/
theorem dayNumber_next (valid : d.isValid = true) : d.next.dayNumber = d.dayNumber + 1 := by
  obtain ⟨first, last, low, high⟩ := isValid_iff.1 valid
  unfold next
  split
  · simp only [dayNumber]
    omega
  · split
    · have month := daysBeforeMonth_succ d.year first
      simp only [dayNumber]
      omega
    · have december : d.month = 12 := by omega
      have year := daysBeforeYear_succ d.year
      have month : daysBeforeMonth d.year 13 = _ := daysBeforeMonth_succ d.year (by decide : 1 ≤ 12)
      simp only [dayNumber, december, daysBeforeMonth_one] at *
      omega

theorem next_previous (valid : d.isValid = true) : d.previous.next = d := by
  obtain ⟨first, last, low, high⟩ := isValid_iff.1 valid
  obtain ⟨year, month, day⟩ := d
  dsimp only at first last low high
  unfold previous
  dsimp only
  split
  · rw [next, if_pos (by dsimp only; omega)]
    simp only [mk.injEq, true_and]
    omega
  · split
    · rw [next, if_neg (Nat.lt_irrefl _), if_pos (by dsimp only; omega)]
      simp only [mk.injEq, true_and]
      omega
    · have december : daysInMonth (year - 1) 12 = 31 := rfl
      rw [next, if_neg (by dsimp only; omega), if_neg (Nat.lt_irrefl 12)]
      simp only [mk.injEq]
      omega

theorem dayNumber_previous (valid : d.isValid = true) :
    d.previous.dayNumber = d.dayNumber - 1 := by
  have next := dayNumber_next (isValid_previous valid)
  rw [next_previous valid] at next
  omega

/-- The years 0 to 9999 are the days before the beginning of the year 10000. -/
theorem year_mem_iff (valid : d.isValid = true) :
    0 ≤ d.year ∧ d.year ≤ 9999 ↔ 0 ≤ d.dayNumber ∧ d.dayNumber < daysBeforeYear 10000 := by
  have before := dayNumber_lt_year valid
  have after := month_le_dayNumber valid
  constructor
  · rintro ⟨low, high⟩
    have first := daysBeforeYear_mono low
    have last := daysBeforeYear_mono (by omega : d.year + 1 ≤ 10000)
    have zero : daysBeforeYear 0 = 0 := by decide
    omega
  · rintro ⟨low, high⟩
    refine ⟨?_, ?_⟩
    · by_contra negative
      have first := daysBeforeYear_mono (by omega : d.year + 1 ≤ 0)
      have zero : daysBeforeYear 0 = 0 := by decide
      omega
    · by_contra late
      have last := daysBeforeYear_mono (by omega : 10000 ≤ d.year)
      omega

end

end Date

/-! ## Instants -/

/-- A point of the time line in UTC: a second, counted from the beginning of the year 0 without the
leap seconds, and nanoseconds; a full second or more of them in a leap second, which comes before
the second that follows. -/
structure Instant where
  second : Int
  nanos : Nat
deriving DecidableEq, Repr

namespace Instant

/-- Earlier instants are less. -/
instance : Ord Instant where
  compare i j := (compare i.second j.second).then (compare i.nanos j.nanos)

theorem swap_compare (i j : Instant) : (compare i j).swap = compare j i := by
  show ((compare i.second j.second).then (compare i.nanos j.nanos)).swap = _
  rw [Ordering.swap_then, ← Std.OrientedCmp.eq_swap, ← Std.OrientedCmp.eq_swap]
  rfl

/-- The instant without what is finer than a millisecond. -/
def toMillis (i : Instant) : Instant := { i with nanos := i.nanos / nanosPerMilli * nanosPerMilli }

/-- The instants of the years 0 to 9999. -/
def InFourDigitYears (i : Instant) : Prop :=
  0 ≤ i.second ∧ i.second < 86400 * Date.daysBeforeYear 10000

instance (i : Instant) : Decidable i.InFourDigitYears :=
  inferInstanceAs (Decidable (_ ∧ _))

end Instant

namespace Timestamp

/-- The instant of a timestamp. -/
def instant (t : Timestamp) : Instant := ⟨86400 * t.date.dayNumber + t.second, t.nanos⟩

/-- **A local time is as far from UTC as its offset says.** -/
theorem instant_ofLocal {date : Date} (valid : date.isValid = true) {second nanos : Nat} {o : Int}
    (inside : second < 86400) (low : -86400 < o) (high : o < 86400) :
    (ofLocal date second nanos o).instant = ⟨86400 * date.dayNumber + second - o, nanos⟩ := by
  have before := Date.dayNumber_previous valid
  have after := Date.dayNumber_next valid
  unfold ofLocal
  dsimp only
  split
  · simp only [instant, before, Instant.mk.injEq, and_true]
    omega
  · split
    · simp only [instant, after, Instant.mk.injEq, and_true]
      omega
    · simp only [instant, Instant.mk.injEq, and_true]
      omega

theorem inFourDigitYears_instant {t : Timestamp} (regular : t.Regular) :
    t.instant.InFourDigitYears ↔ 0 ≤ t.date.year ∧ t.date.year ≤ 9999 := by
  have inside := regular.second
  rw [Date.year_mem_iff regular.date]
  simp only [Instant.InFourDigitYears, instant]
  omega

end Timestamp

end DocStore
