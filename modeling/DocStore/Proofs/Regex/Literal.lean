import DocStore.Regex.Meaning
import Mathlib

/-!
# Searching for literal text

A text that was escaped is read as the concatenation of its characters (`parse?_escape`), unless
that would make too large an automaton (`ofString_escape`), and a search for it finds exactly the
texts that have it as a substring (`isMatch_ofConcat_exactly`). The search is followed position by
position: bit `k` of the set that a literal reaches says that the literal ends at `k`.
-/

namespace DocStore

namespace Regex

/-- Matches one given character. -/
def exactly (c : Char) : Regex := .char (· == c)

/-! ## Sets of positions -/

theorem testBit_positions (f : Option Char → Bool) (before : Option Char) (text : List Char)
    (i : Nat) :
    (positions (fun _ after => f after) before text).testBit i =
      (decide (i ≤ text.length) && f text[i]?) := by
  induction text generalizing before i with
  | nil =>
    cases i with
    | zero => cases h : f none <;> simp [positions, h]
    | succ i => cases h : f none <;> simp [positions, h, Nat.testBit_succ]
  | cons c rest ih =>
    cases i with
    | zero => cases h : f (some c) <;> simp [positions, h, Nat.testBit_zero]
    | succ i =>
      have half : ((f (some c)).toNat + 2 * positions (fun _ after => f after) (some c) rest) / 2 =
          positions (fun _ after => f after) (some c) rest := by
        cases f (some c)
        · simp
        · simp; omega
      rw [positions, Nat.testBit_succ, half, ih]
      simp

/-- A character leads from each place where it stands to the next one. -/
theorem testBit_reach_exactly (text : List Char) (c : Char) (s k : Nat) :
    (((exactly c).moves text).reach s).testBit k = true ↔
      ∃ j, s.testBit j = true ∧ text[j]? = some c ∧ k = j + 1 := by
  simp only [exactly, moves, Moves.reach, Nat.testBit_shiftLeft, Nat.testBit_and, testBit_positions,
    Bool.and_eq_true, decide_eq_true_eq]
  constructor
  · rintro ⟨hk, hs, -, hc⟩
    obtain ⟨d, hd, he⟩ := (Option.any_eq_true _ _).1 hc
    exact ⟨k - 1, hs, by rw [hd, beq_iff_eq.1 he], by omega⟩
  · rintro ⟨j, hs, hc, rfl⟩
    have inside : j < text.length := (List.getElem?_eq_some_iff.1 hc).1
    exact ⟨by omega, by simpa using hs, by simp; omega, by simp [hc]⟩

/-- A prefix of what stands at a position, one character at a time. -/
theorem cons_prefix_drop {c : Char} {rest text : List Char} {j : Nat} :
    c :: rest <+: text.drop j ↔ text[j]? = some c ∧ rest <+: text.drop (j + 1) := by
  rw [← List.tail_drop, ← List.head?_drop]
  cases text.drop j with
  | nil => simp
  | cons d tail => simp [List.cons_prefix_cons, eq_comm]

/-- A literal ends where it began plus its length, and it began where it stands. -/
theorem testBit_reach_ofConcat_exactly (text needle : List Char) (s k : Nat) :
    (((ofConcat (needle.map exactly)).moves text).reach s).testBit k = true ↔
      ∃ j, s.testBit j = true ∧ j ≤ text.length ∧ needle <+: text.drop j ∧
        k = j + needle.length := by
  induction needle generalizing s with
  | nil => simp [ofConcat, moves, Moves.reach, testBit_positions]
  | cons c rest ih =>
    -- The last character stands alone in the concatenation, so it is a case of its own.
    cases rest with
    | nil =>
      simp only [List.map_cons, List.map_nil, ofConcat, testBit_reach_exactly, cons_prefix_drop]
      constructor
      · rintro ⟨j, hs, hc, rfl⟩
        have inside : j < text.length := (List.getElem?_eq_some_iff.1 hc).1
        exact ⟨j, hs, by omega, ⟨hc, List.nil_prefix⟩, rfl⟩
      · rintro ⟨j, hs, -, ⟨hc, -⟩, rfl⟩
        exact ⟨j, hs, hc, rfl⟩
    | cons d tail =>
      have unfolded : ofConcat ((c :: d :: tail).map exactly) =
          .cat (exactly c) (ofConcat ((d :: tail).map exactly)) := rfl
      rw [unfolded, moves, Moves.reach, ih]
      simp only [testBit_reach_exactly]
      constructor
      · rintro ⟨i, ⟨j, hs, hc, rfl⟩, -, hrest, rfl⟩
        have inside : j < text.length := (List.getElem?_eq_some_iff.1 hc).1
        exact ⟨j, hs, by omega, cons_prefix_drop.2 ⟨hc, hrest⟩, by simp only [List.length_cons]; omega⟩
      · rintro ⟨j, hs, -, hp, rfl⟩
        obtain ⟨hc, hrest⟩ := cons_prefix_drop.1 hp
        have inside : j < text.length := (List.getElem?_eq_some_iff.1 hc).1
        exact ⟨j + 1, ⟨j, hs, hc, rfl⟩, by omega, hrest, by simp only [List.length_cons]; omega⟩

theorem infix_iff_prefix_drop {needle text : List Char} :
    needle <:+: text ↔ ∃ j, j ≤ text.length ∧ needle <+: text.drop j := by
  constructor
  · rintro ⟨front, back, rfl⟩
    exact ⟨front.length, by simp, back, by simp [List.append_assoc]⟩
  · rintro ⟨j, -, back, h⟩
    exact ⟨text.take j, back, by rw [List.append_assoc, h, List.take_append_drop]⟩

/-- **A literal is found exactly where it is a substring.** -/
theorem isMatch_ofConcat_exactly (needle : List Char) (text : String) :
    (ofConcat (needle.map exactly)).isMatch text = true ↔ needle <:+: text.toList := by
  have start : ∀ j, (positions (fun _ _ => true) none text.toList).testBit j =
      decide (j ≤ text.toList.length) := by
    intro j
    rw [testBit_positions fun _ => true, Bool.and_true]
  rw [isMatch, bne_iff_ne, infix_iff_prefix_drop]
  constructor
  · intro h
    obtain ⟨k, hk⟩ := Nat.exists_testBit_of_ne_zero h
    obtain ⟨j, -, hj, hp, -⟩ := (testBit_reach_ofConcat_exactly _ _ _ _).1 hk
    exact ⟨j, hj, hp⟩
  · rintro ⟨j, hj, hp⟩ none
    have reached := (testBit_reach_ofConcat_exactly text.toList needle _ _).2
      ⟨j, by rw [start]; simpa using hj, hj, hp, rfl⟩
    rw [none] at reached
    simp at reached

/-! ## Reading escaped text -/

namespace Pattern

/-- The characters of a text with a backslash before those that mean something in a pattern. -/
def escaped (cs : List Char) : List Char := cs.flatMap fun c => if isMeta c then ['\\', c] else [c]

theorem toList_escape (s : String) : (escape s).toList = escaped s.toList := String.toList_ofList ..

theorem escaped_cons (c : Char) (rest : List Char) :
    escaped (c :: rest) = if isMeta c then '\\' :: c :: escaped rest else c :: escaped rest := by
  rw [escaped, List.flatMap_cons]
  split <;> rfl

/-- The pattern of a literal text. -/
def ofText (cs : List Char) : Pattern := concatOf (cs.map fun c => .literal ⟨c, false⟩).reverse

theorem items?_plain {c : Char} (h : isMeta c = false) (rest : List Char) (fuel : Nat)
    (items alts : List Pattern) (names : List String) :
    items? (fuel + 1) items alts ⟨c :: rest, false, names⟩ =
      items? fuel (.literal ⟨c, false⟩ :: items) alts ⟨rest, false, names⟩ := by
  simp only [isMeta, List.contains_cons, List.contains_nil, Bool.or_false, Bool.or_eq_false_iff,
    beq_eq_false_iff_ne] at h
  rw [items?]
  simp only [skip]
  split <;> simp_all

theorem escape?_meta {c : Char} (h : isMeta c = true) (rest : List Char) :
    escape? false (c :: rest) = some (.literal ⟨c, false⟩, rest) := by
  simp only [isMeta, List.contains_cons, List.contains_nil, Bool.or_false, Bool.or_eq_true,
    beq_iff_eq] at h
  rcases h with h | h | h | h | h | h | h | h | h | h | h | h | h | h | h | h | h | h <;>
    subst h <;> rfl

/-- An escaped character is read as the character itself. -/
theorem items?_escaped {c : Char} (h : isMeta c = true) (rest : List Char) (fuel : Nat)
    (items alts : List Pattern) (names : List String) :
    items? (fuel + 1) items alts ⟨'\\' :: c :: rest, false, names⟩ =
      items? fuel (.literal ⟨c, false⟩ :: items) alts ⟨rest, false, names⟩ := by
  rw [items?]
  simp [skip, escape?_meta h]

/-- Each character of the text costs one step, whether it was escaped or not. -/
theorem items?_escape (cs : List Char) (fuel : Nat) (enough : cs.length < fuel)
    (items : List Pattern) (names : List String) :
    items? fuel items [] ⟨escaped cs, false, names⟩ =
      some (concatOf ((cs.map fun c => .literal ⟨c, false⟩).reverse ++ items),
        ⟨[], false, names⟩) := by
  induction cs generalizing fuel items with
  | nil =>
    obtain ⟨fuel, rfl⟩ : ∃ n, fuel = n + 1 := ⟨fuel - 1, by simp at enough; omega⟩
    rw [items?]
    simp [escaped, skip, choiceOf]
  | cons c rest ih =>
    rw [List.length_cons] at enough
    obtain ⟨fuel, rfl⟩ : ∃ n, fuel = n + 1 := ⟨fuel - 1, by omega⟩
    have next := ih fuel (by omega) (.literal ⟨c, false⟩ :: items)
    cases h : isMeta c with
    | true =>
      rw [escaped_cons, if_pos h, items?_escaped h, next]
      simp
    | false =>
      rw [escaped_cons, if_neg (by simp [h]), items?_plain h, next]
      simp

theorem length_le_escaped (cs : List Char) : cs.length ≤ (escaped cs).length := by
  induction cs with
  | nil => simp
  | cons c rest ih =>
    rw [escaped_cons]
    split <;> simp only [List.length_cons] <;> omega

theorem depthOfItems_literals (cs : List Char) :
    depthOfItems (cs.map fun c => Pattern.literal ⟨c, false⟩) = 0 := by
  induction cs with
  | nil => rfl
  | cons c rest ih => simp [depthOfItems, depth, ih]

theorem ofText_cases (cs : List Char) :
    ofText cs = .empty ∧ cs = [] ∨ (∃ c, ofText cs = .literal ⟨c, false⟩ ∧ cs = [c]) ∨
      ofText cs = .concat (cs.map fun c => .literal ⟨c, false⟩) := by
  match cs with
  | [] => exact .inl ⟨rfl, rfl⟩
  | [c] => exact .inr (.inl ⟨c, rfl, rfl⟩)
  | c :: d :: rest =>
    refine .inr (.inr ?_)
    obtain ⟨x, y, more, h⟩ : ∃ x y more,
        ((c :: d :: rest).map fun c => Pattern.literal ⟨c, false⟩).reverse = x :: y :: more := by
      match h : ((c :: d :: rest).map fun c => Pattern.literal ⟨c, false⟩).reverse with
      | [] => simp at h
      | [x] => simpa using congrArg List.length h
      | x :: y :: more => exact ⟨x, y, more, rfl⟩
    have read : ofText (c :: d :: rest) = .concat (x :: y :: more).reverse := by
      rw [ofText, h]; rfl
    rw [read, ← h, List.reverse_reverse]

/-- A text makes no deep pattern, however long it is. -/
theorem depth_ofText (cs : List Char) : (ofText cs).depth ≤ depthLimit := by
  rcases ofText_cases cs with ⟨h, -⟩ | ⟨c, h, -⟩ | h <;>
    simp [h, depth, depthOfItems_literals, depthLimit]

/-- The pattern that an escaped text is read as. -/
theorem parse?_escape (s : String) : parse? (escape s) false = some (ofText s.toList) := by
  have enough : s.toList.length < 2 * (escaped s.toList).length + 2 := by
    have := length_le_escaped s.toList
    omega
  have read := items?_escape s.toList _ enough [] []
  rw [List.append_nil] at read
  simp only [parse?, toList_escape, read, Option.bind_eq_bind, Option.bind_some, List.isEmpty_nil,
    Bool.true_and]
  exact if_pos (decide_eq_true (depth_ofText s.toList))

theorem toRegexes?_literals (cs : List Char) :
    toRegexes? {} (cs.map fun c => .literal ⟨c, false⟩) = some (cs.map exactly, {}) := by
  induction cs with
  | nil => rfl
  | cons c rest ih => simp [toRegexes?, toRegex?, ih, Literal.toRegex?, exactly]

theorem toRegex?_ofText (cs : List Char) :
    (ofText cs).toRegex? {} = some (ofConcat (cs.map exactly), {}) := by
  rcases ofText_cases cs with ⟨h, rfl⟩ | ⟨c, h, rfl⟩ | h
  · rw [h]; rfl
  · rw [h]; rfl
  · rw [h, toRegex?, toRegexes?_literals]; rfl

theorem sizeOfItems_literals (cs : List Char) :
    sizeOfItems (cs.map fun c => Pattern.literal ⟨c, false⟩) =
      stateSize * (cs.map Char.utf8Size).sum := by
  induction cs with
  | nil => rfl
  | cons c rest ih => simp [sizeOfItems, size, ih, Nat.mul_add]

/-- A literal text is small enough up to so many bytes. -/
theorem size_ofText_le (cs : List Char) :
    (ofText cs).size ≤ sizeLimit ↔ (cs.map Char.utf8Size).sum ≤ 327680 := by
  rcases ofText_cases cs with ⟨h, rfl⟩ | ⟨c, h, rfl⟩ | h
  · simp [h, size, stateSize, sizeLimit]
  · simp [h, size, stateSize, sizeLimit]
    omega
  · rw [h, size, sizeOfItems_literals]
    simp only [stateSize, sizeLimit]
    omega

end Pattern

/-- Escaped text is a pattern of its characters, or too large for one. -/
theorem ofString_escape (s : String) :
    ofString (escape s) =
      if (s.toList.map Char.utf8Size).sum ≤ 327680 then .ok (ofConcat (s.toList.map exactly))
      else .error .tooLarge := by
  have mode : Mode.apply {} [] = {} := rfl
  have flag : (FlagList.state? [] .ignoreWhitespace).getD false = false := rfl
  rw [ofString, flag, Pattern.parse?_escape]
  simp only [mode, Pattern.toRegex?_ofText, Pattern.size_ofText_le]

/-- An escaped text fails only by its size. -/
theorem eq_tooLarge_of_escape {s : String} {fault : Fault}
    (h : ofString (escape s) = .error fault) : fault = .tooLarge := by
  rw [ofString_escape] at h
  split at h
  · cases h
  · cases h
    rfl

theorem ofString_escape_replicate {n : Nat} (h : 327680 < n) :
    ofString (escape (String.ofList (List.replicate n 'a'))) = .error .tooLarge := by
  have width : Char.utf8Size 'a' = 1 := rfl
  rw [ofString_escape, String.toList_ofList, List.map_replicate, List.sum_replicate, width,
    if_neg (by simpa using h)]

/-- **An escaped text, searched for as a pattern, is searched for literally.** -/
theorem isMatch_escape {needle : String} {r : Regex} (h : ofString (escape needle) = .ok r)
    (text : String) : r.isMatch text = true ↔ needle.toList <:+: text.toList := by
  rw [ofString_escape] at h
  split at h
  · cases h
    exact isMatch_ofConcat_exactly needle.toList text
  · cases h

end Regex

end DocStore
