import DocStore.Proofs.Timestamp.Calendar

/-!
# The instants that texts name

A text names an instant in one of two forms (`Instant.Spells`): a date with a time of the clock and
an offset from UTC, or a bare date, which is its midnight. A timestamp is read from exactly the texts
that name an instant, and it is that instant (`Timestamp.ofString?_iff`).
-/

namespace DocStore

/-! ## The forms -/

/-- A number written in digits, no fewer than `least` and no more than `most`. -/
structure Digits (least most : Nat) (ds : List Char) (n : Nat) : Prop where
  digits : ∀ c ∈ ds, c.isDigit = true
  least : least ≤ ds.length
  most : ds.length ≤ most
  value : Text.digitsValue ds = n

/-- A fraction of a second, in whole nanoseconds. -/
inductive Fraction : List Char → Nat → Prop
  | whole : Fraction [] 0
  | point {ds : List Char} {n : Nat} (digits : Digits 1 ds.length ds n) :
    Fraction ('.' :: ds) (n * nanosPerSecond / 10 ^ ds.length)

/-- An offset from UTC in seconds. -/
inductive Zone : List Char → Int → Prop
  | utc {c : Char} (letter : c = 'Z' ∨ c = 'z') : Zone [c] 0
  | signed {c : Char} {sign : Int} {hh mm : List Char} {hours minutes : Nat}
    (sign_value : (c, sign) ∈ [('+', 1), ('-', -1), ('\u2212', -1)]) (hour_digits : Digits 2 2 hh hours)
    (minute_digits : Digits 2 2 mm minutes) (hour_lt : hours < 24) (minute_lt : minutes < 60) :
    Zone (c :: (hh ++ ':' :: mm)) (sign * (hours * 3600 + minutes * 60 : Nat))

/-- The year of a bare date. -/
inductive SignedYear : List Char → Int → Prop
  | plain {ds : List Char} {n : Nat} (digits : Digits 1 4 ds n) : SignedYear ds n
  | positive {ds : List Char} {n : Nat} (digits : Digits 1 ds.length ds n) :
    SignedYear ('+' :: ds) n
  | negative {ds : List Char} {n : Nat} (digits : Digits 1 ds.length ds n) :
    SignedYear ('-' :: ds) (-n)

/-- A day that exists, of a year that is not too far away. -/
structure Date.Exists (d : Date) : Prop where
  low : -262143 ≤ d.year
  high : d.year ≤ 262142
  valid : d.isValid = true

namespace Instant

/-- The instant when clocks with an offset show a date and a time; the sixtieth second of a minute is
the leap second after its last one. -/
def ofClock (date : Date) (hour minute second nanos : Nat) (offset : Int) : Instant :=
  if second = 60 then
    ⟨86400 * date.dayNumber + (3600 * hour + 60 * minute + 59 : Nat) - offset, nanos + nanosPerSecond⟩
  else ⟨86400 * date.dayNumber + (3600 * hour + 60 * minute + second : Nat) - offset, nanos⟩

/-- A text names an instant. -/
inductive Spells : List Char → Instant → Prop
  | dateTime {yyyy mo dd hh mi ss fraction zone : List Char} {mark : Char}
    {year month day hour minute second nanos : Nat} {offset : Int}
    (year_digits : Digits 4 4 yyyy year) (month_digits : Digits 2 2 mo month)
    (day_digits : Digits 2 2 dd day) (marked : mark ∈ ['T', 't', ' '])
    (hour_digits : Digits 2 2 hh hour) (minute_digits : Digits 2 2 mi minute)
    (second_digits : Digits 2 2 ss second) (fraction_nanos : Fraction fraction nanos)
    (zone_offset : Zone zone offset) (exist : Date.Exists ⟨year, month, day⟩) (hour_lt : hour < 24)
    (minute_lt : minute < 60) (second_le : second ≤ 60) :
    Spells (yyyy ++ '-' :: (mo ++ '-' :: (dd ++ mark :: (hh ++ ':' :: (mi ++ ':' :: (ss ++
      (fraction ++ zone))))))) (ofClock ⟨year, month, day⟩ hour minute second nanos offset)
  | date {gap₁ gap₂ gap₃ yyyy mo dd : List Char} {year : Int} {month day : Nat}
    (blank₁ : ∀ c ∈ gap₁, Text.isBlank c = true) (blank₂ : ∀ c ∈ gap₂, Text.isBlank c = true)
    (blank₃ : ∀ c ∈ gap₃, Text.isBlank c = true) (year_digits : SignedYear yyyy year)
    (month_digits : Digits 1 2 mo month) (day_digits : Digits 1 2 dd day)
    (exist : Date.Exists ⟨year, month, day⟩) :
    Spells (gap₁ ++ (yyyy ++ '-' :: (gap₂ ++ (mo ++ '-' :: (gap₃ ++ dd)))))
      (ofClock ⟨year, month, day⟩ 0 0 0 0 0)

end Instant

namespace Timestamp

open Text (digitsValue digitsValue_append digitsValue_lt)

variable {cs rest ds : List Char} {n : Nat} {o : Int} {d : Date} {i : Instant}

/-- Numbers that are read as a date are the numbers of a day that exists. -/
theorem exists_of_ofNumbers? {year : Int} {month day : Nat}
    (h : Date.ofNumbers? year month day = some d) : d = ⟨year, month, day⟩ ∧ d.Exists := by
  obtain ⟨rfl, low, high, valid⟩ := Date.ofNumbers?_eq_some.1 h
  exact ⟨rfl, low, high, valid⟩

theorem ofNumbers?_of_exists {year : Int} {month day : Nat} (h : Date.Exists ⟨year, month, day⟩) :
    Date.ofNumbers? year month day = some ⟨year, month, day⟩ :=
  Date.ofNumbers?_eq_some.2 ⟨rfl, h.low, h.high, h.valid⟩

/-! ## Numbers -/

/-- A text that no digit begins. -/
def StopsDigits (cs : List Char) : Prop := cs.takeWhile Char.isDigit = []

theorem stopsDigits_nil : StopsDigits [] := rfl

theorem stopsDigits_cons {c : Char} (h : c.isDigit = false) (rest : List Char) :
    StopsDigits (c :: rest) :=
  List.takeWhile_cons_of_neg (by simp [h])

/-- A run of digits ends where no digit follows. -/
theorem takeWhile_digits (h : ∀ c ∈ ds, c.isDigit = true) (stop : StopsDigits rest) :
    (ds ++ rest).takeWhile Char.isDigit = ds := by
  rw [List.takeWhile_append_of_pos h, stop, List.append_nil]

/-- Two digits are read exactly where two stand, whatever follows them. -/
theorem twoDigits?_iff :
    twoDigits? cs = some (n, rest) ↔ ∃ ds, cs = ds ++ rest ∧ Digits 2 2 ds n := by
  constructor
  · intro read
    unfold twoDigits? at read
    split at read
    · split at read
      · rename_i a b _ digits
        rw [Bool.and_eq_true] at digits
        cases read
        exact ⟨[a, b], rfl, by simpa using digits, Nat.le_refl 2, Nat.le_refl 2, rfl⟩
      · cases read
    · cases read
  · rintro ⟨ds, rfl, digits, least, most, value⟩
    match ds, Nat.le_antisymm most least with
    | [a, b], _ =>
      simp only [List.mem_cons, List.not_mem_nil, or_false, forall_eq_or_imp, forall_eq] at digits
      simp [twoDigits?, digits, value]

theorem fourDigits?_iff :
    fourDigits? cs = some (n, rest) ↔ ∃ ds, cs = ds ++ rest ∧ Digits 4 4 ds n := by
  constructor
  · intro read
    unfold fourDigits? at read
    split at read
    · split at read
      · rename_i a b c d _ digits
        simp only [Bool.and_eq_true] at digits
        cases read
        exact ⟨[a, b, c, d], rfl, by simpa [and_assoc] using digits, Nat.le_refl 4, Nat.le_refl 4, rfl⟩
      · cases read
    · cases read
  · rintro ⟨ds, rfl, digits, least, most, value⟩
    match ds, Nat.le_antisymm most least with
    | [a, b, c, d], _ =>
      simp only [List.mem_cons, List.not_mem_nil, or_false, forall_eq_or_imp, forall_eq] at digits
      simp [fourDigits?, digits, value]

theorem isEmpty_of_digits {most : Nat} (h : Digits 1 most ds n) : ds.isEmpty = false := by
  rw [List.isEmpty_eq_false_iff, ← List.length_pos_iff]
  exact h.least

/-- A run is cut off at its longest length, so what is left may begin with a digit. -/
theorem digits_of_digitRun? {max : Nat} (h : digitRun? max cs = some (n, rest)) :
    ∃ ds, cs = ds ++ rest ∧ Digits 1 max ds n := by
  unfold digitRun? at h
  dsimp only at h
  split at h
  · cases h
  · rename_i filled
    cases h
    rw [Bool.not_eq_true, List.isEmpty_eq_false_iff, ← List.length_pos_iff] at filled
    refine ⟨_, ?_, fun c mem => ?_, filled, List.length_take_le .., rfl⟩
    · have run : cs.takeWhile Char.isDigit <+: cs := List.takeWhile_prefix _
      exact (List.prefix_iff_eq_append.1 ((List.take_prefix _ _).trans run)).symm
    · exact List.all_eq_true.1 List.all_takeWhile c (List.mem_of_mem_take mem)

/-- A run that fits is read as a whole if no digit follows it. -/
theorem digitRun?_of_digits {max : Nat} (h : Digits 1 max ds n) (stop : StopsDigits rest) :
    digitRun? max (ds ++ rest) = some (n, rest) := by
  have filled := isEmpty_of_digits h
  obtain ⟨digits, -, most, value⟩ := h
  simp only [digitRun?, takeWhile_digits digits stop, List.take_of_length_le most, filled, value,
    List.drop_left, Bool.false_eq_true, if_false]

theorem expect?_iff {c : Char} : expect? c cs = some rest ↔ cs = c :: rest := by
  cases cs with
  | nil => simp [expect?]
  | cons d cs =>
    by_cases same : d = c
    · simp [expect?, same]
    · simp [expect?, same]

/-! ## Fractions and offsets -/

/-- Nanoseconds are the first nine digits of a fraction, with zeros for those that are missing. -/
theorem digitsValue_take (h : ∀ c ∈ ds, c.isDigit = true) :
    digitsValue (ds.take 9) * 10 ^ (9 - (ds.take 9).length) =
      digitsValue ds * nanosPerSecond / 10 ^ ds.length := by
  have second : nanosPerSecond = 10 ^ 9 := rfl
  rcases Nat.le_total ds.length 9 with short | long
  · rw [List.take_of_length_le short, second]
    have pad : 10 ^ 9 = 10 ^ (9 - ds.length) * 10 ^ ds.length := by
      rw [← Nat.pow_add, Nat.sub_add_cancel short]
    rw [pad, ← Nat.mul_assoc, Nat.mul_div_cancel _ (Nat.pow_pos (by decide))]
  · have kept : (ds.take 9).length = 9 := List.length_take_of_le long
    have dropped : (ds.drop 9).length = ds.length - 9 := List.length_drop
    have rest : digitsValue (ds.drop 9) < 10 ^ (ds.drop 9).length :=
      digitsValue_lt fun c mem => h c (List.mem_of_mem_drop mem)
    have whole := digitsValue_append (ds.take 9) (ds.drop 9)
    have long' : 10 ^ ds.length = 10 ^ (ds.length - 9) * 10 ^ 9 := by
      rw [← Nat.pow_add, Nat.sub_add_cancel long]
    rw [List.take_append_drop, dropped] at whole
    rw [dropped] at rest
    rw [kept, whole, long', second, Nat.mul_div_mul_right _ _ (Nat.pow_pos (by decide)),
      Nat.add_comm, Nat.add_mul_div_right _ _ (Nat.pow_pos (by decide)), Nat.div_eq_of_lt rest]
    simp

/-- A fraction that is read has the value of all of its digits, in whole nanoseconds. -/
theorem fraction_of_fraction? (h : fraction? cs = some (n, rest)) :
    ∃ f, cs = f ++ rest ∧ Fraction f n := by
  unfold fraction? at h
  split at h
  · rename_i tail
    dsimp only at h
    split at h
    · cases h
    · rename_i filled
      cases h
      have digits : ∀ c ∈ tail.takeWhile Char.isDigit, c.isDigit = true :=
        fun c => List.all_eq_true.1 List.all_takeWhile c
      rw [Bool.not_eq_true, List.isEmpty_eq_false_iff, ← List.length_pos_iff] at filled
      refine ⟨'.' :: tail.takeWhile Char.isDigit, ?_, ?_⟩
      · rw [List.cons_append]
        congr 1
        exact (List.prefix_iff_eq_append.1 (List.takeWhile_prefix _)).symm
      · have value := digitsValue_take digits
        show Fraction _ (digitsValue _ * 10 ^ _)
        rw [value]
        exact .point ⟨digits, filled, Nat.le_refl _, rfl⟩
  · cases h
    exact ⟨[], rfl, .whole⟩

theorem fraction?_of_fraction {f : List Char} {c : Char} (h : Fraction f n) (point : c ≠ '.')
    (stop : c.isDigit = false) (tail : List Char) :
    fraction? (f ++ c :: tail) = some (n, c :: tail) := by
  cases h with
  | whole =>
    rw [List.nil_append]
    unfold fraction?
    split
    · rename_i same
      exact absurd (List.cons.inj same).1 point
    · rfl
  | @point ds n digits =>
    have filled := isEmpty_of_digits digits
    obtain ⟨digits, -, -, rfl⟩ := digits
    have value := digitsValue_take digits
    rw [List.cons_append]
    simp only [fraction?, takeWhile_digits digits (stopsDigits_cons stop tail), filled,
      Bool.false_eq_true, if_false, List.drop_left]
    exact congrArg (fun n => some (n, c :: tail)) value

/-- An offset that is read is one of the forms of a zone. -/
theorem zone_of_offset? (h : offset? cs = some (o, rest)) : ∃ z, cs = z ++ rest ∧ Zone z o := by
  unfold offset? at h
  extract_lets signed at h
  have clock {c : Char} {sign : Int} {cs : List Char}
      (value : (c, sign) ∈ [('+', 1), ('-', -1), ('\u2212', -1)])
      (h : signed sign cs = some (o, rest)) : ∃ z, c :: cs = z ++ rest ∧ Zone z o := by
    obtain ⟨⟨hours, _⟩, hour, h⟩ := Option.bind_eq_some_iff.1 h
    obtain ⟨_, colon, h⟩ := Option.bind_eq_some_iff.1 h
    obtain ⟨⟨minutes, _⟩, minute, h⟩ := Option.bind_eq_some_iff.1 h
    dsimp only at h
    split at h
    · rename_i inside
      cases h
      obtain ⟨hh, rfl, hour_digits⟩ := twoDigits?_iff.1 hour
      obtain rfl := expect?_iff.1 colon
      obtain ⟨mm, rfl, minute_digits⟩ := twoDigits?_iff.1 minute
      exact ⟨c :: (hh ++ ':' :: mm), by simp, .signed value hour_digits minute_digits inside.2 inside.1⟩
    · cases h
  split at h
  · cases h
    exact ⟨['Z'], rfl, .utc (.inl rfl)⟩
  · cases h
    exact ⟨['z'], rfl, .utc (.inr rfl)⟩
  · exact clock (by decide) h
  · exact clock (by decide) h
  · exact clock (by decide) h
  · cases h

/-- Each form of a zone is read, and nothing of what follows it. -/
theorem offset?_of_zone {z : List Char} (h : Zone z o) (rest : List Char) :
    offset? (z ++ rest) = some (o, rest) := by
  cases h with
  | utc letter =>
    rcases letter with rfl | rfl
    · rfl
    · rfl
  | @signed c sign hh mm hours minutes value hour_digits minute_digits hour_lt minute_lt =>
    have hour : twoDigits? (hh ++ ':' :: (mm ++ rest)) = some (hours, ':' :: (mm ++ rest)) :=
      twoDigits?_iff.2 ⟨hh, rfl, hour_digits⟩
    have minute : twoDigits? (mm ++ rest) = some (minutes, rest) :=
      twoDigits?_iff.2 ⟨mm, rfl, minute_digits⟩
    rw [List.cons_append, List.append_assoc, List.cons_append]
    unfold offset?
    extract_lets signed
    have clock (sign : Int) : signed sign (hh ++ ':' :: (mm ++ rest)) =
        some (sign * (hours * 3600 + minutes * 60 : Nat), rest) := by
      simp only [signed, Option.bind_eq_bind, hour, Option.bind_some, expect?_cons, minute]
      rw [if_pos ⟨minute_lt, hour_lt⟩]
    simp only [List.mem_cons, Prod.mk.injEq, List.not_mem_nil, or_false] at value
    rcases value with ⟨rfl, rfl⟩ | ⟨rfl, rfl⟩ | ⟨rfl, rfl⟩
    · exact clock 1
    · exact clock (-1)
    · exact clock (-1)

/-- An offset begins with a letter or a sign, so that the fraction before it ends. -/
theorem zone_cons {z : List Char} (h : Zone z o) :
    ∃ c tail, z = c :: tail ∧ c ≠ '.' ∧ c.isDigit = false := by
  cases h with
  | utc letter =>
    refine ⟨_, _, rfl, ?_⟩
    rcases letter with rfl | rfl
    · decide
    · decide
  | signed value =>
    refine ⟨_, _, rfl, ?_⟩
    simp only [List.mem_cons, Prod.mk.injEq, List.not_mem_nil, or_false] at value
    rcases value with ⟨rfl, -⟩ | ⟨rfl, -⟩ | ⟨rfl, -⟩
    · decide
    · decide
    · decide

/-- An offset is less than a day, so that a local time lies in the day before, the same or the next.
-/
theorem zone_lt {z : List Char} (h : Zone z o) : -86400 < o ∧ o < 86400 := by
  cases h with
  | utc => decide
  | signed value hour_digits minute_digits hour_lt minute_lt =>
    simp only [List.mem_cons, Prod.mk.injEq, List.not_mem_nil, or_false] at value
    rcases value with ⟨-, rfl⟩ | ⟨-, rfl⟩ | ⟨-, rfl⟩
    · omega
    · omega
    · omega

/-! ## The first form -/

/-- The timestamp that a clock shows. -/
def ofClock (date : Date) (hour minute second nanos : Nat) (offset : Int) : Timestamp :=
  if second = 60 then
    ofLocal date (hour * 3600 + minute * 60 + 59) (nanos + nanosPerSecond) offset
  else ofLocal date (hour * 3600 + minute * 60 + second) nanos offset

/-- The timestamp that a clock shows is the instant when it shows it. -/
theorem instant_ofClock {date : Date} (valid : date.isValid = true) {hour minute second nanos : Nat}
    (hour_lt : hour < 24) (minute_lt : minute < 60) (second_le : second ≤ 60)
    (near : -86400 < o ∧ o < 86400) :
    (ofClock date hour minute second nanos o).instant =
      Instant.ofClock date hour minute second nanos o := by
  unfold ofClock Instant.ofClock
  split
  · rw [instant_ofLocal valid (by omega) near.1 near.2, Nat.mul_comm hour, Nat.mul_comm minute]
  · rw [instant_ofLocal valid (by omega) near.1 near.2, Nat.mul_comm hour, Nat.mul_comm minute]

/-- A text that is read in the first form names the instant, and has a colon. -/
theorem spells_of_ofDateTime? {t : Timestamp} (h : ofDateTime? cs = some t) :
    Instant.Spells cs t.instant ∧ ':' ∈ cs := by
  obtain ⟨⟨year, _⟩, year_read, h⟩ := Option.bind_eq_some_iff.1 h
  obtain ⟨_, dash₁, h⟩ := Option.bind_eq_some_iff.1 h
  obtain ⟨⟨month, _⟩, month_read, h⟩ := Option.bind_eq_some_iff.1 h
  obtain ⟨_, dash₂, h⟩ := Option.bind_eq_some_iff.1 h
  obtain ⟨⟨day, after⟩, day_read, h⟩ := Option.bind_eq_some_iff.1 h
  dsimp -zeta only at h
  extract_lets timed at h
  have time {mark : Char} {tail : List Char} (marked : mark ∈ ['T', 't', ' '])
      (same : after = mark :: tail) (h : timed tail = some t) :
      Instant.Spells cs t.instant ∧ ':' ∈ cs := by
    obtain ⟨⟨hour, _⟩, hour_read, h⟩ := Option.bind_eq_some_iff.1 h
    obtain ⟨_, colon₁, h⟩ := Option.bind_eq_some_iff.1 h
    obtain ⟨⟨minute, _⟩, minute_read, h⟩ := Option.bind_eq_some_iff.1 h
    obtain ⟨_, colon₂, h⟩ := Option.bind_eq_some_iff.1 h
    obtain ⟨⟨second, _⟩, second_read, h⟩ := Option.bind_eq_some_iff.1 h
    obtain ⟨⟨nanos, _⟩, fraction_read, h⟩ := Option.bind_eq_some_iff.1 h
    obtain ⟨⟨o, rest⟩, zone_read, h⟩ := Option.bind_eq_some_iff.1 h
    obtain ⟨date, exist, h⟩ := Option.bind_eq_some_iff.1 h
    dsimp only at h
    split at h
    · rename_i inside
      obtain ⟨ended, hour_lt, minute_lt, second_le⟩ := inside
      have clock : ofClock date hour minute second nanos o = t := by
        unfold ofClock
        split at h
        · rw [if_pos (by assumption)]
          exact Option.some.inj h
        · rw [if_neg (by assumption)]
          exact Option.some.inj h
      obtain rfl := List.isEmpty_iff.1 ended
      obtain rfl := same
      obtain ⟨rfl, exist⟩ := exists_of_ofNumbers? exist
      obtain ⟨yyyy, rfl, year_digits⟩ := fourDigits?_iff.1 year_read
      obtain rfl := expect?_iff.1 dash₁
      obtain ⟨mo, rfl, month_digits⟩ := twoDigits?_iff.1 month_read
      obtain rfl := expect?_iff.1 dash₂
      obtain ⟨dd, rfl, day_digits⟩ := twoDigits?_iff.1 day_read
      obtain ⟨hh, rfl, hour_digits⟩ := twoDigits?_iff.1 hour_read
      obtain rfl := expect?_iff.1 colon₁
      obtain ⟨mi, rfl, minute_digits⟩ := twoDigits?_iff.1 minute_read
      obtain rfl := expect?_iff.1 colon₂
      obtain ⟨ss, rfl, second_digits⟩ := twoDigits?_iff.1 second_read
      obtain ⟨f, rfl, fraction_nanos⟩ := fraction_of_fraction? fraction_read
      obtain ⟨z, rfl, zone_offset⟩ := zone_of_offset? zone_read
      rw [← clock, instant_ofClock exist.valid hour_lt minute_lt second_le (zone_lt zone_offset),
        List.append_nil]
      exact ⟨.dateTime year_digits month_digits day_digits marked hour_digits minute_digits
        second_digits fraction_nanos zone_offset exist hour_lt minute_lt second_le, by simp⟩
    · cases h
  split at h
  · exact time (by decide) rfl h
  · exact time (by decide) rfl h
  · exact time (by decide) rfl h
  · cases h

/-- A text of the first form is read part by part. -/
theorem ofDateTime?_of_digits {yyyy mo dd hh mi ss f z : List Char} {mark : Char}
    {year month day hour minute second nanos : Nat}
    (year_digits : Digits 4 4 yyyy year) (month_digits : Digits 2 2 mo month)
    (day_digits : Digits 2 2 dd day) (marked : mark ∈ ['T', 't', ' '])
    (hour_digits : Digits 2 2 hh hour) (minute_digits : Digits 2 2 mi minute)
    (second_digits : Digits 2 2 ss second) (fraction_nanos : Fraction f nanos)
    (zone_offset : Zone z o) (exist : Date.Exists ⟨year, month, day⟩) (hour_lt : hour < 24)
    (minute_lt : minute < 60) (second_le : second ≤ 60) :
    ofDateTime? (yyyy ++ '-' :: (mo ++ '-' :: (dd ++ mark :: (hh ++ ':' :: (mi ++ ':' :: (ss ++
      (f ++ z))))))) = some (ofClock ⟨year, month, day⟩ hour minute second nanos o) := by
  have year_read (rest) : fourDigits? (yyyy ++ rest) = some (year, rest) :=
    fourDigits?_iff.2 ⟨yyyy, rfl, year_digits⟩
  have month_read (rest) : twoDigits? (mo ++ rest) = some (month, rest) :=
    twoDigits?_iff.2 ⟨mo, rfl, month_digits⟩
  have day_read (rest) : twoDigits? (dd ++ rest) = some (day, rest) :=
    twoDigits?_iff.2 ⟨dd, rfl, day_digits⟩
  have hour_read (rest) : twoDigits? (hh ++ rest) = some (hour, rest) :=
    twoDigits?_iff.2 ⟨hh, rfl, hour_digits⟩
  have minute_read (rest) : twoDigits? (mi ++ rest) = some (minute, rest) :=
    twoDigits?_iff.2 ⟨mi, rfl, minute_digits⟩
  have second_read (rest) : twoDigits? (ss ++ rest) = some (second, rest) :=
    twoDigits?_iff.2 ⟨ss, rfl, second_digits⟩
  have zone_read : offset? z = some (o, []) := by
    have read := offset?_of_zone zone_offset []
    rwa [List.append_nil] at read
  have fraction_read : fraction? (f ++ z) = some (nanos, z) := by
    obtain ⟨c, tail, rfl, point, stop⟩ := zone_cons zone_offset
    exact fraction?_of_fraction fraction_nanos point stop tail
  have inside : ([] : List Char).isEmpty = true ∧ hour < 24 ∧ minute < 60 ∧ second ≤ 60 :=
    ⟨rfl, hour_lt, minute_lt, second_le⟩
  have date := ofNumbers?_of_exists exist
  dsimp -zeta only [ofDateTime?, Option.bind_eq_bind]
  rw [year_read, Option.bind_some]
  dsimp -zeta only
  rw [expect?_cons, Option.bind_some, month_read, Option.bind_some]
  dsimp -zeta only
  rw [expect?_cons, Option.bind_some, day_read, Option.bind_some]
  dsimp -zeta only
  extract_lets timed
  have time : timed (hh ++ ':' :: (mi ++ ':' :: (ss ++ (f ++ z)))) =
      some (ofClock ⟨year, month, day⟩ hour minute second nanos o) := by
    simp only [timed, hour_read, Option.bind_some, expect?_cons, minute_read, second_read,
      fraction_read, zone_read, date]
    rw [if_pos inside, ofClock]
    split
    · rfl
    · rfl
  simp only [List.mem_cons, List.not_mem_nil, or_false] at marked
  rcases marked with rfl | rfl | rfl
  · exact time
  · exact time
  · exact time

/-! ## The second form -/

/-- With a sign a year may have any number of digits, without one four at most. -/
theorem signedYear_of_signedYear? {y : Int} (h : signedYear? cs = some (y, rest)) :
    ∃ ds, cs = ds ++ rest ∧ SignedYear ds y := by
  unfold signedYear? at h
  split at h
  · obtain ⟨⟨n, _⟩, read, same⟩ := Option.map_eq_some_iff.1 h
    obtain ⟨ds, rfl, digits⟩ := digits_of_digitRun? read
    cases same
    exact ⟨'-' :: ds, rfl, .negative ⟨digits.digits, digits.least, Nat.le_refl _, digits.value⟩⟩
  · obtain ⟨⟨n, _⟩, read, same⟩ := Option.map_eq_some_iff.1 h
    obtain ⟨ds, rfl, digits⟩ := digits_of_digitRun? read
    cases same
    exact ⟨'+' :: ds, rfl, .positive ⟨digits.digits, digits.least, Nat.le_refl _, digits.value⟩⟩
  · obtain ⟨⟨n, _⟩, read, same⟩ := Option.map_eq_some_iff.1 h
    obtain ⟨ds, rfl, digits⟩ := digits_of_digitRun? read
    cases same
    exact ⟨ds, rfl, .plain digits⟩

theorem digits_cons {least most : Nat} (h : Digits least most ds n) (some : 1 ≤ least) :
    ∃ c tail, ds = c :: tail ∧ c.isDigit = true := by
  cases ds with
  | nil => exact absurd (Nat.le_trans some h.least) (by simp)
  | cons c tail => exact ⟨c, tail, rfl, h.digits c (by simp)⟩

theorem signedYear?_of_signedYear {y : Int} (h : SignedYear ds y) (stop : StopsDigits rest) :
    signedYear? (ds ++ rest) = some (y, rest) := by
  cases h with
  | @plain _ n digits =>
    have read := digitRun?_of_digits digits stop
    obtain ⟨c, tail, rfl, digit⟩ := digits_cons digits (Nat.le_refl 1)
    rw [List.cons_append] at read ⊢
    unfold signedYear?
    split
    · rename_i same
      cases same
      cases digit
    · rename_i same
      cases same
      cases digit
    · rw [read]
      rfl
  | @positive ds n digits =>
    have long : Digits 1 (ds ++ rest).length ds n :=
      ⟨digits.digits, digits.least, by simp, digits.value⟩
    have read := digitRun?_of_digits long stop
    rw [List.cons_append, signedYear?, read]
    rfl
  | @negative ds n digits =>
    have long : Digits 1 (ds ++ rest).length ds n :=
      ⟨digits.digits, digits.least, by simp, digits.value⟩
    have read := digitRun?_of_digits long stop
    rw [List.cons_append, signedYear?, read]
    rfl

theorem signedYear_cons {y : Int} (h : SignedYear ds y) :
    ∃ c tail, ds = c :: tail ∧ Text.isBlank c = false := by
  cases h with
  | plain digits =>
    obtain ⟨c, tail, rfl, digit⟩ := digits_cons digits (Nat.le_refl 1)
    exact ⟨c, tail, rfl, Text.isBlank_of_isDigit digit⟩
  | positive => exact ⟨_, _, rfl, by decide⟩
  | negative => exact ⟨_, _, rfl, by decide⟩

theorem instant_midnight (date : Date) :
    (⟨date, 0, 0⟩ : Timestamp).instant = Instant.ofClock date 0 0 0 0 0 := by
  simp [instant, Instant.ofClock]

/-- A text that is read in the second form names midnight of its day. -/
theorem spells_of_ofDate? {t : Timestamp} (h : ofDate? cs = some t) :
    Instant.Spells cs t.instant := by
  obtain ⟨⟨year, _⟩, year_read, h⟩ := Option.bind_eq_some_iff.1 h
  obtain ⟨after_year, dash₁, h⟩ := Option.bind_eq_some_iff.1 h
  obtain ⟨⟨month, _⟩, month_read, h⟩ := Option.bind_eq_some_iff.1 h
  obtain ⟨after_month, dash₂, h⟩ := Option.bind_eq_some_iff.1 h
  obtain ⟨⟨day, _⟩, day_read, h⟩ := Option.bind_eq_some_iff.1 h
  obtain ⟨date, exist, h⟩ := Option.bind_eq_some_iff.1 h
  split at h
  · rename_i ended
    cases h
    obtain rfl := List.isEmpty_iff.1 ended
    obtain ⟨rfl, exist⟩ := exists_of_ofNumbers? exist
    obtain ⟨gap₁, blank₁, whole₁⟩ := Text.exists_gap cs
    obtain ⟨yyyy, year_text, year_digits⟩ := signedYear_of_signedYear? year_read
    obtain ⟨gap₂, blank₂, whole₂⟩ := Text.exists_gap after_year
    obtain ⟨mo, month_text, month_digits⟩ := digits_of_digitRun? month_read
    obtain ⟨gap₃, blank₃, whole₃⟩ := Text.exists_gap after_month
    obtain ⟨dd, day_text, day_digits⟩ := digits_of_digitRun? day_read
    rw [whole₁, year_text, expect?_iff.1 dash₁, whole₂, month_text, expect?_iff.1 dash₂, whole₃,
      day_text, List.append_nil, instant_midnight]
    exact .date blank₁ blank₂ blank₃ year_digits month_digits day_digits exist
  · cases h

/-- A text of the second form is read part by part; white space may stand before each. -/
theorem ofDate?_of_digits {gap₁ gap₂ gap₃ yyyy mo dd : List Char} {year : Int} {month day : Nat}
    (blank₁ : ∀ c ∈ gap₁, Text.isBlank c = true) (blank₂ : ∀ c ∈ gap₂, Text.isBlank c = true)
    (blank₃ : ∀ c ∈ gap₃, Text.isBlank c = true) (year_digits : SignedYear yyyy year)
    (month_digits : Digits 1 2 mo month) (day_digits : Digits 1 2 dd day)
    (exist : Date.Exists ⟨year, month, day⟩) :
    ofDate? (gap₁ ++ (yyyy ++ '-' :: (gap₂ ++ (mo ++ '-' :: (gap₃ ++ dd))))) =
      some ⟨⟨year, month, day⟩, 0, 0⟩ := by
  have dash (rest) : StopsDigits ('-' :: rest) := stopsDigits_cons (by decide) rest
  have year_read (rest) : signedYear? (yyyy ++ '-' :: rest) = some (year, '-' :: rest) :=
    signedYear?_of_signedYear year_digits (dash rest)
  have month_read (rest) : digitRun? 2 (mo ++ '-' :: rest) = some (month, '-' :: rest) :=
    digitRun?_of_digits month_digits (dash rest)
  have day_read : digitRun? 2 dd = some (day, []) := by
    have read := digitRun?_of_digits day_digits stopsDigits_nil
    rwa [List.append_nil] at read
  have date := ofNumbers?_of_exists exist
  have gap₁ (rest) : (gap₁ ++ (yyyy ++ rest)).dropWhile Text.isBlank = yyyy ++ rest := by
    obtain ⟨c, tail, rfl, filled⟩ := signedYear_cons year_digits
    exact Text.dropWhile_gap blank₁ filled (tail ++ rest)
  have gap₂ (rest) : (gap₂ ++ (mo ++ rest)).dropWhile Text.isBlank = mo ++ rest := by
    obtain ⟨c, tail, rfl, digit⟩ := digits_cons month_digits (Nat.le_refl 1)
    exact Text.dropWhile_gap blank₂ (Text.isBlank_of_isDigit digit) (tail ++ rest)
  have gap₃ : (gap₃ ++ dd).dropWhile Text.isBlank = dd := by
    obtain ⟨c, tail, rfl, digit⟩ := digits_cons day_digits (Nat.le_refl 1)
    exact Text.dropWhile_gap blank₃ (Text.isBlank_of_isDigit digit) tail
  dsimp only [ofDate?, Option.bind_eq_bind]
  rw [gap₁, year_read, Option.bind_some]
  dsimp only
  rw [expect?_cons, Option.bind_some, gap₂, month_read, Option.bind_some]
  dsimp only
  rw [expect?_cons, Option.bind_some, gap₃, day_read, Option.bind_some]
  dsimp only
  rw [date]
  rfl

/-! ## Both forms -/

theorem not_colon_of_digits {least most : Nat} (h : Digits least most ds n) : ':' ∉ ds :=
  fun mem => absurd (h.digits _ mem) (by decide)

theorem not_colon_of_blank {gap : List Char} (h : ∀ c ∈ gap, Text.isBlank c = true) : ':' ∉ gap :=
  fun mem => absurd (h _ mem) (by decide)

theorem not_colon_of_signedYear {y : Int} (h : SignedYear ds y) : ':' ∉ ds := by
  cases h with
  | plain digits => exact not_colon_of_digits digits
  | positive digits => simp [not_colon_of_digits digits]
  | negative digits => simp [not_colon_of_digits digits]

/-- No colon, no time. -/
theorem ofDateTime?_eq_none (h : ':' ∉ cs) : ofDateTime? cs = none :=
  Option.eq_none_iff_forall_ne_some.2 fun _ read => h (spells_of_ofDateTime? read).2

/-- **A timestamp is read from the texts that name an instant**, and it is that instant. -/
theorem ofString?_iff {s : String} :
    (∃ t, ofString? s = some t ∧ t.instant = i) ↔ Instant.Spells s.toList i := by
  unfold ofString?
  generalize s.toList = cs
  constructor
  · rintro ⟨t, read, rfl⟩
    rcases Option.or_eq_some_iff.1 read with dateTime | ⟨-, date⟩
    · exact (spells_of_ofDateTime? dateTime).1
    · exact spells_of_ofDate? date
  · intro spells
    cases spells with
    | dateTime year_digits month_digits day_digits marked hour_digits minute_digits second_digits
        fraction_nanos zone_offset exist hour_lt minute_lt second_le =>
      refine ⟨_, ?_, instant_ofClock exist.valid hour_lt minute_lt second_le (zone_lt zone_offset)⟩
      rw [ofDateTime?_of_digits year_digits month_digits day_digits marked hour_digits minute_digits
        second_digits fraction_nanos zone_offset exist hour_lt minute_lt second_le, Option.some_or]
    | date blank₁ blank₂ blank₃ year_digits month_digits day_digits exist =>
      refine ⟨_, ?_, instant_midnight _⟩
      rw [ofDateTime?_eq_none, Option.none_or, ofDate?_of_digits blank₁ blank₂ blank₃ year_digits
        month_digits day_digits exist]
      simp [not_colon_of_blank blank₁, not_colon_of_blank blank₂, not_colon_of_blank blank₃,
        not_colon_of_signedYear year_digits, not_colon_of_digits month_digits,
        not_colon_of_digits day_digits]

end Timestamp

namespace Instant

/-- A text names one instant at most. -/
theorem Spells.unique {cs : List Char} {i j : Instant} (hi : Spells cs i) (hj : Spells cs j) :
    i = j := by
  rw [← @String.toList_ofList cs] at hi hj
  obtain ⟨t, read, rfl⟩ := Timestamp.ofString?_iff.2 hi
  obtain ⟨u, again, rfl⟩ := Timestamp.ofString?_iff.2 hj
  rw [Option.some.inj (read.symm.trans again)]

theorem Spells.iff_eq {cs : List Char} {i : Instant} (h : Spells cs i) (j : Instant) :
    Spells cs j ↔ j = i := by
  constructor
  · exact fun other => other.unique h
  · rintro rfl
    exact h

end Instant

end DocStore
