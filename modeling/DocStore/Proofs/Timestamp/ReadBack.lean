import DocStore.Proofs.Text.Numerals
import DocStore.Timestamp
import Mathlib.Algebra.Group.Nat.Defs

/-!
# Timestamps are read back

A timestamp that was read is a regular one (`Timestamp.Regular`), and the text of a regular timestamp
of the years 0 to 9999 names it up to milliseconds (`Timestamp.ofString?_text`). The text of any
other year carries a sign, which is not read before a time (`Timestamp.ofString?_text_eq_none`).
-/

namespace DocStore

/-! ## Days -/

namespace Date

theorem isValid_iff {d : Date} : d.isValid = true ↔
    1 ≤ d.month ∧ d.month ≤ 12 ∧ 1 ≤ d.day ∧ d.day ≤ daysInMonth d.year d.month := by
  simp [isValid, and_assoc]

theorem one_le_daysInMonth (year : Int) (month : Nat) : 1 ≤ daysInMonth year month := by
  unfold daysInMonth
  repeat' split
  all_goals omega

theorem daysInMonth_le (year : Int) (month : Nat) : daysInMonth year month ≤ 31 := by
  unfold daysInMonth
  repeat' split
  all_goals omega

/-- The day after a day that exists exists. -/
theorem isValid_next {d : Date} (h : d.isValid = true) : d.next.isValid = true := by
  rw [isValid_iff] at h
  unfold next
  split
  · rw [isValid_iff]
    dsimp only
    omega
  · split
    · have := one_le_daysInMonth d.year (d.month + 1)
      rw [isValid_iff]
      dsimp only
      omega
    · have := one_le_daysInMonth (d.year + 1) 1
      rw [isValid_iff]
      dsimp only
      omega

theorem isValid_previous {d : Date} (h : d.isValid = true) : d.previous.isValid = true := by
  rw [isValid_iff] at h
  unfold previous
  split
  · rw [isValid_iff]
    dsimp only
    omega
  · split
    · have := one_le_daysInMonth d.year (d.month - 1)
      rw [isValid_iff]
      dsimp only
      omega
    · have december : daysInMonth (d.year - 1) 12 = 31 := by simp [daysInMonth]
      rw [isValid_iff]
      dsimp only
      omega

/-- Three numbers make a date if there is such a day, in a year of the range. -/
theorem ofNumbers?_eq_some {year : Int} {month day : Nat} {d : Date} :
    ofNumbers? year month day = some d ↔
      d = ⟨year, month, day⟩ ∧ -262143 ≤ year ∧ year ≤ 262142 ∧ d.isValid = true := by
  unfold ofNumbers?
  dsimp only
  split
  · rename_i sound
    rw [Option.some.injEq, eq_comm]
    exact ⟨fun same => ⟨same, sound.1, sound.2.1, same ▸ sound.2.2⟩, And.left⟩
  · rename_i unsound
    refine ⟨fun none => (by cases none), ?_⟩
    rintro ⟨rfl, low, high, valid⟩
    exact absurd ⟨low, high, valid⟩ unsound

end Date

namespace Timestamp

open Text (digitsValue digitsValue_append_singleton digitsValue_lt)

/-! ## Digits -/

theorem digits_digitChar : ∀ d < 10, (Nat.digitChar d).isDigit = true ∧
    (Nat.digitChar d).toNat - '0'.toNat = d := by
  decide

theorem isDigit_digitChar (n : Nat) : (Nat.digitChar (n % 10)).isDigit = true :=
  (digits_digitChar _ (Nat.mod_lt _ (by decide))).1

theorem isDigit_of_mem_padded {width n : Nat} {c : Char} (h : c ∈ padded width n) :
    c.isDigit = true := by
  induction width generalizing n with
  | zero => cases h
  | succ width ih =>
    rw [padded, List.mem_append, List.mem_singleton] at h
    rcases h with h | rfl
    · exact ih h
    · exact isDigit_digitChar n

theorem length_padded (width n : Nat) : (padded width n).length = width := by
  induction width generalizing n with
  | zero => rfl
  | succ width ih => simp [padded, ih]

/-- A written number ends where something other than a digit follows. -/
theorem takeWhile_padded (width n : Nat) {c : Char} (h : c.isDigit = false) (rest : List Char) :
    (padded width n ++ c :: rest).takeWhile Char.isDigit = padded width n := by
  rw [List.takeWhile_append_of_pos fun d hd => isDigit_of_mem_padded hd,
    List.takeWhile_cons_of_neg (by simp [h]), List.append_nil]

theorem isEmpty_padded {width : Nat} (h : 0 < width) (n : Nat) :
    (padded width n).isEmpty = false := by
  rw [List.isEmpty_eq_false_iff, ← List.length_pos_iff, length_padded]
  exact h

/-- Digits that are written are read as the number they were written for. -/
theorem digitsValue_padded {width n : Nat} (h : n < 10 ^ width) :
    digitsValue (padded width n) = n := by
  induction width generalizing n with
  | zero => simp_all [padded, digitsValue]
  | succ width ih =>
    have last := (digits_digitChar (n % 10) (Nat.mod_lt _ (by decide))).2
    rw [padded, digitsValue_append_singleton, last, ih (by rw [Nat.pow_succ] at h; omega)]
    omega

/-! ## Reading what was written -/

theorem twoDigits?_padded {n : Nat} (h : n < 100) (rest : List Char) :
    twoDigits? (padded 2 n ++ rest) = some (n, rest) := by
  have value : digitsValue [Nat.digitChar (n / 10 % 10), Nat.digitChar (n % 10)] = n :=
    @digitsValue_padded 2 n h
  simp only [padded, List.nil_append, List.cons_append, twoDigits?, isDigit_digitChar, Bool.and_self,
    if_true, value]

/-- A year below 10000 is written in four digits and read back. -/
theorem fourDigits?_padded {n : Nat} (h : n < 10000) (rest : List Char) :
    fourDigits? (padded 4 n ++ rest) = some (n, rest) := by
  have value : digitsValue [Nat.digitChar (n / 10 / 10 / 10 % 10), Nat.digitChar (n / 10 / 10 % 10),
      Nat.digitChar (n / 10 % 10), Nat.digitChar (n % 10)] = n := @digitsValue_padded 4 n h
  simp only [padded, List.nil_append, List.cons_append, fourDigits?, isDigit_digitChar,
    Bool.and_self, if_true, value]

theorem digitRun?_padded {max width : Nat} (n : Nat) {c : Char} (some : 0 < width)
    (fits : width ≤ max) (stop : c.isDigit = false) (rest : List Char) :
    digitRun? max (padded width n ++ c :: rest) =
      .some (digitsValue (padded width n), c :: rest) := by
  have all : (padded width n).take max = padded width n :=
    List.take_of_length_le (by rwa [length_padded])
  simp only [digitRun?, takeWhile_padded width n stop, all, isEmpty_padded some,
    List.drop_left, Bool.false_eq_true, if_false]

/-- Milliseconds are read back as nanoseconds. -/
theorem fraction?_padded {n : Nat} (h : n < 1000) (rest : List Char) :
    fraction? ('.' :: (padded 3 n ++ 'Z' :: rest)) = some (n * nanosPerMilli, 'Z' :: rest) := by
  have run := takeWhile_padded 3 n (by decide : 'Z'.isDigit = false) rest
  have kept : (padded 3 n).take 9 = padded 3 n := List.take_of_length_le (by simp [length_padded])
  have left : (padded 3 n ++ 'Z' :: rest).drop 3 = 'Z' :: rest :=
    List.drop_left' (length_padded 3 n)
  simp only [fraction?, run, isEmpty_padded (by decide : 0 < 3), kept, length_padded, left,
    @digitsValue_padded 3 n h]
  rfl

/-- Without an offset a local time is the time in UTC. -/
theorem ofLocal_zero (date : Date) {second : Nat} (h : second < 86400) (nanos : Nat) :
    ofLocal date second nanos 0 = ⟨date, second, nanos⟩ := by
  simp only [ofLocal]
  rw [if_neg (by omega), if_neg (by omega)]
  simp

theorem expect?_cons (c : Char) (rest : List Char) : expect? c (c :: rest) = some rest := by
  simp [expect?]

theorem offset?_utc : offset? ['Z'] = some (0, []) := rfl

/-- A date and a time in UTC are read back. -/
theorem ofDateTime?_padded {year month day hour minute second millis : Nat} {date : Date}
    (exist : Date.ofNumbers? year month day = some date) (years : year < 10000) (months : month < 100)
    (days : day < 100) (hours : hour < 24) (minutes : minute < 60) (seconds : second ≤ 60)
    (fraction : millis < 1000) :
    ofDateTime? (padded 4 year ++ '-' :: (padded 2 month ++ '-' :: (padded 2 day ++ 'T' ::
      (padded 2 hour ++ ':' :: (padded 2 minute ++ ':' :: (padded 2 second ++ '.' ::
        (padded 3 millis ++ ['Z']))))))) =
      some (if second = 60 then
        ⟨date, hour * 3600 + minute * 60 + 59, millis * nanosPerMilli + nanosPerSecond⟩
      else ⟨date, hour * 3600 + minute * 60 + second, millis * nanosPerMilli⟩) := by
  have hour' : hour < 100 := by omega
  have minute' : minute < 100 := by omega
  have second' : second < 100 := by omega
  have inside : ([] : List Char).isEmpty = true ∧ hour < 24 ∧ minute < 60 ∧ second ≤ 60 :=
    ⟨rfl, hours, minutes, seconds⟩
  -- one reader at a time: the three letters before a time give three copies of what follows
  dsimp only [ofDateTime?, Option.bind_eq_bind]
  rw [fourDigits?_padded years, Option.bind_some]
  dsimp only
  rw [expect?_cons, Option.bind_some, twoDigits?_padded months, Option.bind_some]
  dsimp only
  rw [expect?_cons, Option.bind_some, twoDigits?_padded days, Option.bind_some]
  simp only
  rw [Option.bind_some, twoDigits?_padded hour', Option.bind_some]
  dsimp only
  rw [expect?_cons, Option.bind_some, twoDigits?_padded minute', Option.bind_some]
  dsimp only
  rw [expect?_cons, Option.bind_some, twoDigits?_padded second', Option.bind_some]
  dsimp only
  rw [fraction?_padded fraction, Option.bind_some]
  dsimp only
  rw [offset?_utc, Option.bind_some, exist, Option.bind_some, if_pos inside]
  split
  · rw [ofLocal_zero date (by omega)]
  · rw [ofLocal_zero date (by omega)]

theorem dropWhile_padded {width : Nat} (h : 0 < width) (n : Nat) (rest : List Char) :
    (padded width n ++ rest).dropWhile Text.isBlank = padded width n ++ rest := by
  cases all : padded width n with
  | nil =>
    have filled := isEmpty_padded h n
    rw [all] at filled
    cases filled
  | cons c cs =>
    have digit : c.isDigit = true := isDigit_of_mem_padded (by rw [all]; simp)
    rw [List.cons_append, List.dropWhile_cons_of_neg (by simp [Text.isBlank_of_isDigit digit])]

/-- Nothing may follow a bare date. -/
theorem ofDate?_eq_none {sign c : Char} {width year month day : Nat} (signs : sign = '-' ∨ sign = '+')
    (long : 0 < width) (stop : c.isDigit = false) (rest : List Char) :
    ofDate? (sign :: (padded width year ++ '-' :: (padded 2 month ++ '-' :: (padded 2 day ++
      c :: rest)))) = none := by
  have dash : '-'.isDigit = false := by decide
  have two : 0 < 2 := by decide
  have blank : ¬ Text.isBlank sign = true := by rcases signs with rfl | rfl <;> decide
  have signed (tail : List Char) : ∃ y : Int,
      signedYear? (sign :: (padded width year ++ '-' :: tail)) = some (y, '-' :: tail) := by
    have run := digitRun?_padded year long
      (by simp [length_padded] : width ≤ (padded width year ++ '-' :: tail).length) dash tail
    rcases signs with rfl | rfl
    · exact ⟨_, by rw [signedYear?, run]; rfl⟩
    · exact ⟨_, by rw [signedYear?, run]; rfl⟩
  obtain ⟨y, year⟩ := signed (padded 2 month ++ '-' :: (padded 2 day ++ c :: rest))
  have month := digitRun?_padded month two (Nat.le_refl 2) dash (padded 2 day ++ c :: rest)
  have day := digitRun?_padded day two (Nat.le_refl 2) stop rest
  dsimp only [ofDate?, Option.bind_eq_bind]
  rw [List.dropWhile_cons_of_neg blank, year, Option.bind_some]
  dsimp only
  rw [expect?_cons, Option.bind_some, dropWhile_padded two, month, Option.bind_some]
  dsimp only
  rw [expect?_cons, Option.bind_some, dropWhile_padded two, day, Option.bind_some]
  simp

/-! ## Regular timestamps -/

/-- A timestamp with an existing day, a time of that day, and more than a second of nanoseconds only
in the last second of a minute. -/
structure Regular (t : Timestamp) : Prop where
  date : t.date.isValid = true
  second : t.second < 86400
  nanos : t.nanos < nanosPerSecond ∨ t.nanos < 2 * nanosPerSecond ∧ t.second % 60 = 59

/-- The timestamp with whole milliseconds. -/
def toMillis (t : Timestamp) : Timestamp :=
  { t with nanos := t.nanos / nanosPerMilli * nanosPerMilli }

/-- The second of the minute that is written. -/
def secondOf (t : Timestamp) : Nat := t.second % 60 + if nanosPerSecond ≤ t.nanos then 1 else 0

/-- The milliseconds that are written. -/
def millisOf (t : Timestamp) : Nat :=
  (if nanosPerSecond ≤ t.nanos then t.nanos - nanosPerSecond else t.nanos) / nanosPerMilli

/-- The text of a timestamp part by part. -/
theorem text_eq (t : Timestamp) : t.text = String.ofList (yearText t.date.year ++ '-' ::
    (padded 2 t.date.month ++ '-' :: (padded 2 t.date.day ++ 'T' ::
      (padded 2 (t.second / 3600) ++ ':' :: (padded 2 (t.second / 60 % 60) ++ ':' ::
        (padded 2 t.secondOf ++ '.' :: (padded 3 t.millisOf ++ ['Z']))))))) := by
  simp only [text, List.append_assoc, List.cons_append]
  rfl

/-- Cutting to milliseconds neither makes a leap second nor loses one. -/
theorem leap_toMillis (t : Timestamp) :
    nanosPerSecond ≤ t.toMillis.nanos ↔ nanosPerSecond ≤ t.nanos := by
  simp only [toMillis, nanosPerSecond, nanosPerMilli]
  omega

theorem millisOf_toMillis (t : Timestamp) : t.toMillis.millisOf = t.millisOf := by
  have leap := t.leap_toMillis
  unfold millisOf
  split
  · rw [if_pos (leap.1 (by assumption))]
    simp only [toMillis, nanosPerSecond, nanosPerMilli]
    omega
  · rw [if_neg (mt leap.2 (by assumption))]
    simp only [toMillis, nanosPerMilli]
    omega

/-- Whole milliseconds are all that is written. -/
theorem text_toMillis (t : Timestamp) : t.toMillis.text = t.text := by
  have second : t.toMillis.secondOf = t.secondOf := by
    simp only [secondOf, leap_toMillis]
    rfl
  rw [text_eq, text_eq, millisOf_toMillis, second]
  rfl

/-- **A regular timestamp of the years 0 to 9999 is read back from its text**, up to milliseconds. -/
theorem ofString?_text {t : Timestamp} (h : t.Regular) (low : 0 ≤ t.date.year)
    (high : t.date.year ≤ 9999) : ofString? t.text = some t.toMillis := by
  obtain ⟨date, second, nanos⟩ := h
  obtain ⟨-, months, -, days⟩ := Date.isValid_iff.1 date
  have month := Date.daysInMonth_le t.date.year t.date.month
  have year : ((t.date.year.toNat : Nat) : Int) = t.date.year := Int.toNat_of_nonneg low
  have exist : Date.ofNumbers? t.date.year.toNat t.date.month t.date.day = some t.date := by
    rw [year]
    exact Date.ofNumbers?_eq_some.2 ⟨rfl, by omega, by omega, date⟩
  rw [ofString?, text_eq, String.toList_ofList, yearText, if_pos ⟨low, high⟩]
  by_cases leap : nanosPerSecond ≤ t.nanos
  · have last : t.second % 60 = 59 := by omega
    have shown : t.secondOf = 60 := by simp [secondOf, leap, last]
    have millis : t.millisOf = (t.nanos - nanosPerSecond) / nanosPerMilli := by
      rw [millisOf, if_pos leap]
    have fraction : (t.nanos - nanosPerSecond) / nanosPerMilli < 1000 ∧
        (t.nanos - nanosPerSecond) / nanosPerMilli * nanosPerMilli + nanosPerSecond =
          t.nanos / nanosPerMilli * nanosPerMilli := by
      simp only [nanosPerSecond, nanosPerMilli] at leap nanos ⊢
      omega
    rw [shown, millis, ofDateTime?_padded exist (by omega) (by omega) (by omega) (by omega) (by omega)
      (by omega) fraction.1, if_pos rfl, Option.some_or, Option.some.injEq, toMillis, mk.injEq]
    exact ⟨rfl, by omega, fraction.2⟩
  · have shown : t.secondOf = t.second % 60 := by simp [secondOf, leap]
    have millis : t.millisOf = t.nanos / nanosPerMilli := by rw [millisOf, if_neg leap]
    have fraction : t.nanos / nanosPerMilli < 1000 := by
      simp only [nanosPerSecond, nanosPerMilli] at leap ⊢
      omega
    rw [shown, millis, ofDateTime?_padded exist (by omega) (by omega) (by omega) (by omega) (by omega)
      (by omega) fraction, if_neg (by omega), Option.some_or, Option.some.injEq, toMillis, mk.injEq]
    exact ⟨rfl, by omega, rfl⟩

/-- The year of such a timestamp is written with a sign. -/
theorem yearText_eq_cons {year : Int} (late : ¬ (0 ≤ year ∧ year ≤ 9999)) :
    ∃ sign width, (sign = '-' ∨ sign = '+') ∧ 0 < width ∧
      yearText year = sign :: padded width year.natAbs := by
  unfold yearText
  rw [if_neg late]
  refine ⟨_, _, ?_, ?_, rfl⟩
  · split <;> simp
  · omega

/-- **The text of a timestamp of another year is not read.** -/
theorem ofString?_text_eq_none {t : Timestamp} (late : ¬ (0 ≤ t.date.year ∧ t.date.year ≤ 9999)) :
    ofString? t.text = none := by
  obtain ⟨sign, width, signs, long, year⟩ := yearText_eq_cons late
  have mark : sign.isDigit = false := by rcases signs with rfl | rfl <;> decide
  have noTime (rest : List Char) : ofDateTime? (sign :: rest) = none := by
    have noYear : fourDigits? (sign :: rest) = none := by
      unfold fourDigits?
      split
      · rename_i same
        cases same
        simp [mark]
      · rfl
    rw [ofDateTime?, noYear]
    rfl
  rw [ofString?, text_eq, String.toList_ofList, year, List.cons_append, noTime, Option.none_or]
  exact ofDate?_eq_none signs long (by decide) _

/-! ## What is read is regular -/

theorem fraction?_lt {cs rest : List Char} {n : Nat} (h : fraction? cs = some (n, rest)) :
    n < nanosPerSecond := by
  unfold fraction? at h
  split at h
  · rename_i digits
    dsimp only at h
    split at h
    · cases h
    · cases h
      have short : ((digits.takeWhile Char.isDigit).take 9).length ≤ 9 :=
        List.length_take_le ..
      have value : digitsValue ((digits.takeWhile Char.isDigit).take 9) <
          10 ^ ((digits.takeWhile Char.isDigit).take 9).length :=
        digitsValue_lt fun c hc => List.all_eq_true.1 List.all_takeWhile c (List.mem_of_mem_take hc)
      generalize ((digits.takeWhile Char.isDigit).take 9).length = width at *
      have pad : 0 < 10 ^ (9 - width) := Nat.pow_pos (by decide)
      calc _ < 10 ^ width * 10 ^ (9 - width) := Nat.mul_lt_mul_of_pos_right value pad
        _ = nanosPerSecond := by
          rw [← Nat.pow_add, Nat.add_sub_cancel' short]
          rfl
  · cases h
    decide

/-- An offset is a number of whole minutes, less than a day. -/
theorem offset?_minutes {cs rest : List Char} {o : Int} (h : offset? cs = some (o, rest)) :
    ∃ m : Int, o = 60 * m ∧ -1440 < m ∧ m < 1440 := by
  unfold offset? at h
  extract_lets signed at h
  have whole {sign : Int} {cs : List Char} (one : sign = 1 ∨ sign = -1)
      (h : signed sign cs = some (o, rest)) : ∃ m : Int, o = 60 * m ∧ -1440 < m ∧ m < 1440 := by
    obtain ⟨⟨hours, cs⟩, -, h⟩ := Option.bind_eq_some_iff.1 h
    obtain ⟨cs, -, h⟩ := Option.bind_eq_some_iff.1 h
    obtain ⟨⟨minutes, cs⟩, -, h⟩ := Option.bind_eq_some_iff.1 h
    dsimp only at h
    split at h
    · cases h
      refine ⟨sign * (hours * 60 + minutes), ?_⟩
      rcases one with rfl | rfl <;> omega
    · cases h
  split at h
  · cases h
    exact ⟨0, by decide⟩
  · cases h
    exact ⟨0, by decide⟩
  · exact whole (.inl rfl) h
  · exact whole (.inr rfl) h
  · exact whole (.inr rfl) h
  · cases h

/-- An offset of whole minutes leaves leap seconds at the end of a minute. -/
theorem regular_ofLocal {date : Date} {second nanos : Nat} {o m : Int} (valid : date.isValid = true)
    (inside : second < 86400)
    (leap : nanos < nanosPerSecond ∨ nanos < 2 * nanosPerSecond ∧ second % 60 = 59)
    (minutes : o = 60 * m) (low : -1440 < m) (high : m < 1440) :
    (ofLocal date second nanos o).Regular := by
  unfold ofLocal
  dsimp only
  split
  · refine ⟨Date.isValid_previous valid, ?_, ?_⟩
    · dsimp only
      omega
    · dsimp only
      omega
  · split
    · refine ⟨Date.isValid_next valid, ?_, ?_⟩
      · dsimp only
        omega
      · dsimp only
        omega
    · refine ⟨valid, ?_, ?_⟩
      · dsimp only
        omega
      · dsimp only
        omega

theorem regular_of_ofDateTime? {cs : List Char} {t : Timestamp} (h : ofDateTime? cs = some t) :
    t.Regular := by
  obtain ⟨⟨year, _⟩, -, h⟩ := Option.bind_eq_some_iff.1 h
  obtain ⟨_, -, h⟩ := Option.bind_eq_some_iff.1 h
  obtain ⟨⟨month, _⟩, -, h⟩ := Option.bind_eq_some_iff.1 h
  obtain ⟨_, -, h⟩ := Option.bind_eq_some_iff.1 h
  obtain ⟨⟨day, _⟩, -, h⟩ := Option.bind_eq_some_iff.1 h
  dsimp -zeta only at h
  extract_lets timed at h
  have rest {cs : List Char} (h : timed cs = some t) : t.Regular := by
    obtain ⟨⟨hour, _⟩, -, h⟩ := Option.bind_eq_some_iff.1 h
    obtain ⟨_, -, h⟩ := Option.bind_eq_some_iff.1 h
    obtain ⟨⟨minute, _⟩, -, h⟩ := Option.bind_eq_some_iff.1 h
    obtain ⟨_, -, h⟩ := Option.bind_eq_some_iff.1 h
    obtain ⟨⟨second, _⟩, -, h⟩ := Option.bind_eq_some_iff.1 h
    obtain ⟨⟨nanos, _⟩, fraction, h⟩ := Option.bind_eq_some_iff.1 h
    obtain ⟨⟨o, cs⟩, offset, h⟩ := Option.bind_eq_some_iff.1 h
    obtain ⟨date, exist, h⟩ := Option.bind_eq_some_iff.1 h
    obtain ⟨m, whole, low, high⟩ := offset?_minutes offset
    have short := fraction?_lt fraction
    obtain ⟨rfl, -, -, valid⟩ := Date.ofNumbers?_eq_some.1 exist
    dsimp only at h
    split at h
    · rename_i inside
      split at h
      · cases h
        exact regular_ofLocal valid (by omega) (.inr (by omega)) whole low high
      · cases h
        exact regular_ofLocal valid (by omega) (.inl short) whole low high
    · cases h
  split at h
  · exact rest h
  · exact rest h
  · exact rest h
  · cases h

theorem regular_of_ofDate? {cs : List Char} {t : Timestamp} (h : ofDate? cs = some t) :
    t.Regular := by
  obtain ⟨⟨year, _⟩, -, h⟩ := Option.bind_eq_some_iff.1 h
  obtain ⟨_, -, h⟩ := Option.bind_eq_some_iff.1 h
  obtain ⟨⟨month, _⟩, -, h⟩ := Option.bind_eq_some_iff.1 h
  obtain ⟨_, -, h⟩ := Option.bind_eq_some_iff.1 h
  obtain ⟨⟨day, _⟩, -, h⟩ := Option.bind_eq_some_iff.1 h
  obtain ⟨date, exist, h⟩ := Option.bind_eq_some_iff.1 h
  split at h
  · cases h
    obtain ⟨rfl, -, -, valid⟩ := Date.ofNumbers?_eq_some.1 exist
    exact ⟨valid, Nat.zero_lt_succ _, .inl (Nat.zero_lt_succ _)⟩
  · cases h

/-- **Timestamps that are read are regular.** -/
theorem regular_of_ofString? {s : String} {t : Timestamp} (h : ofString? s = some t) :
    t.Regular := by
  rw [ofString?, Option.or_eq_some_iff] at h
  rcases h with h | ⟨-, h⟩
  · exact regular_of_ofDateTime? h
  · exact regular_of_ofDate? h

end Timestamp

end DocStore
