import DocStore.Regex.Pattern
import DocStore.Text.Blank
import DocStore.Text.Numeral
import DocStore.Unicode.Category
import DocStore.Unicode.Property
import DocStore.Words

/-!
# Reading patterns

The tree of a pattern's text, or nothing where the text is malformed. With the flag `x`, white
space and comments between the parts of a pattern are skipped.
-/

namespace DocStore

namespace Regex.Pattern

mutual

/-- Skips white space and comments where the flag `x` is on. -/
def skip (x : Bool) : List Char → List Char
  | [] => []
  | c :: rest =>
    if !x then c :: rest
    else if Text.isBlank c then skip x rest
    else if c == '#' then skipComment x rest
    else c :: rest

/-- Skips the rest of a comment. -/
def skipComment (x : Bool) : List Char → List Char
  | [] => []
  | c :: rest => if c == '\n' then skip x rest else skipComment x rest

end

/-- The character after the first one, as the end of a class range is looked for: past white
space and one comment mark where the flag `x` is on. -/
def peek (x : Bool) (rest : List Char) : Option Char :=
  if !x then rest.head?
  else match rest.dropWhile Text.isBlank with
    | '#' :: after => (after.dropWhile Text.isBlank).head?
    | after => after.head?

/-! ## Names and flags -/

/-- The letters. -/
def alphabetic : List (Nat × Nat) := (Unicode.findSet? Unicode.properties "alpha").getD []

/-- The digits and other numbers. -/
def numeric : List (Nat × Nat) :=
  ["nd", "nl", "no"].flatMap fun n => (Unicode.findSet? Unicode.categories n).getD []

/-- Whether a character may stand in the name of a group. -/
def isNameChar (first : Bool) (c : Char) : Bool :=
  c == '_' || Unicode.CodePoints.member alphabetic c.toNat ||
    (!first && (c == '.' || c == '[' || c == ']' || Unicode.CodePoints.member numeric c.toNat))

/-- The name of a group up to its closing angle. -/
def groupName? (cs : List Char) : Option (String × List Char) :=
  let name := cs.takeWhile (· != '>')
  match name, cs.drop name.length with
  | first :: others, '>' :: rest =>
    if isNameChar true first && others.all (isNameChar false) then
      some (String.ofList name, rest)
    else none
  | _, _ => none

/-- The flag of a letter. -/
def flag? : Char → Option Flag
  | 'i' => some .caseInsensitive
  | 'm' => some .multiLine
  | 's' => some .dotMatchesNewLine
  | 'U' => some .swapGreed
  | 'u' => some .unicode
  | 'R' => some .crlf
  | 'x' => some .ignoreWhitespace
  | _ => none

/-- The letters of a flag list: no flag twice, at most one minus, and a flag after it. -/
def flagLetters? (on : Bool) (acc : FlagList) : List Char → Option FlagList
  | [] => some acc.reverse
  | '-' :: rest => if on && !rest.isEmpty then flagLetters? false acc rest else none
  | c :: rest => do
    let f ← flag? c
    if (acc.state? f).isSome then none else flagLetters? on ((f, on) :: acc) rest

/-- A flag list, and whether a group follows it. -/
def flags? (cs : List Char) : Option (FlagList × Bool × List Char) := do
  let letters := cs.takeWhile fun c => c != ':' && c != ')'
  let fs ← flagLetters? true [] letters
  match cs.drop letters.length with
  | ':' :: rest => some (fs, true, rest)
  | ')' :: rest => some (fs, false, rest)
  | _ => none

/-! ## Numbers and escapes -/

/-- A repetition count: blanks may stand around and, with the flag `x`, between its digits. -/
def count? (x : Bool) (cs : List Char) : Option (Nat × List Char) :=
  let rec digits : Nat → List Char → List Char → List Char × List Char
    | 0, acc, cs => (acc, cs)
    | fuel + 1, acc, cs =>
      match cs with
      | c :: rest => if c.isDigit then digits fuel (c :: acc) (skip x rest) else (acc, cs)
      | [] => (acc, cs)
  let (ds, rest) := digits (cs.length + 1) [] (cs.dropWhile Text.isBlank)
  let n := Text.digitsValue ds.reverse
  if ds.isEmpty || !decide (FitsNat32 n) then none
  else
    let rest := rest.dropWhile Text.isBlank
    some (n, if rest.isEmpty then rest else if x then skip x rest else rest)

/-- The character with a code point, when it is one. -/
def charOf? (n : Nat) : Option Char := if n.isValidChar then some (Char.ofNat n) else none

/-- A number of hexadecimal digits. -/
def hexDigits? (x : Bool) : Nat → Nat → List Char → Option (Nat × List Char)
  | 0, acc, cs => some (acc, cs)
  | n + 1, acc, c :: rest => do
    let d ← Text.hexValue? c
    hexDigits? x n (acc * 16 + d) (skip x rest)
  | _ + 1, _, [] => none

/-- Hexadecimal digits up to a closing brace. -/
def hexBraced? (x : Bool) : Nat → Option Nat → List Char → Option (Nat × List Char)
  | 0, _, _ => none
  | fuel + 1, acc, cs =>
    match skip x cs with
    | '\x7d' :: rest => acc.map fun n => (n, skip x rest)
    | c :: rest => do
      let d ← Text.hexValue? c
      hexBraced? x fuel (some (acc.getD 0 * 16 + d)) rest
    | [] => none

/-- A code point after `\x`, `\u` or `\U`. -/
def hex? (x : Bool) (width : Nat) (cs : List Char) : Option (Literal × List Char) :=
  match skip x cs with
  | '\x7b' :: rest => do
    let (n, rest) ← hexBraced? x (rest.length + 1) none rest
    pure (⟨← charOf? n, false⟩, rest)
  | rest => do
    let (n, rest) ← hexDigits? x width 0 rest
    pure (⟨← charOf? n, width == 2⟩, rest)

/-- The text before the first occurrence of a word, and the text after it. -/
def splitAt? (word : List Char) : List Char → Option (List Char × List Char)
  | [] => none
  | c :: rest =>
    if word.isPrefixOf (c :: rest) then some ([], (c :: rest).drop word.length)
    else (splitAt? word rest).map fun (a, b) => (c :: a, b)

/-- The name of a Unicode class between braces. -/
def queryOf (name : List Char) : PropertyQuery :=
  let value (negated : Bool) : List Char × List Char → PropertyQuery
    | (p, v) => .value (String.ofList p) (String.ofList v) negated
  match splitAt? ['!', '='] name, splitAt? [':'] name, splitAt? ['='] name with
  | some q, _, _ => value true q
  | none, some q, _ => value false q
  | none, none, some q => value false q
  | none, none, none => .name (String.ofList name)

/-- The characters of a class name up to its closing brace. -/
def braced? (x : Bool) : Nat → List Char → List Char → Option (List Char × List Char)
  | 0, _, _ => none
  | fuel + 1, acc, cs =>
    match skip x cs with
    | '\x7d' :: rest => some (acc.reverse, rest)
    | c :: rest => braced? x fuel (c :: acc) rest
    | [] => none

/-- A Unicode class after `\p` or `\P`. -/
def query? (x : Bool) (cs : List Char) : Option (PropertyQuery × List Char) :=
  match skip x cs with
  | '\x7b' :: rest => (braced? x (rest.length + 1) [] rest).map fun (n, rest) => (queryOf n, rest)
  | '\\' :: _ => none
  | c :: rest => some (.name (String.ofList [c]), skip x rest)
  | [] => none

/-- What an escape, or a single character, stands for. -/
inductive Atom where
  | literal (l : Literal)
  | assertion (a : Assertion)
  | letter (negated : Bool) (c : LetterClass)
  | property (negated : Bool) (query : PropertyQuery)

/-- Whether an escaped character stands for itself. -/
def isPlainEscape (c : Char) : Bool := c.toNat < 0x80 && !c.isAlphanum && c != '<' && c != '>'

/-- A word boundary, which may be named in braces. -/
def boundary? (x : Bool) (cs : List Char) : Option (Assertion × List Char) :=
  let isNamePart (c : Char) : Bool := c.isAlpha || c == '-'
  let rec name : Nat → List Char → List Char → List Char × List Char
    | 0, acc, cs => (acc.reverse, cs)
    | fuel + 1, acc, cs =>
      match cs with
      | c :: rest => if isNamePart c then name fuel (c :: acc) (skip x rest) else (acc.reverse, cs)
      | [] => (acc.reverse, [])
  match cs with
  | '\x7b' :: rest =>
    match skip x rest with
    | [] => none
    | c :: after =>
      if !isNamePart c then some (.wordBoundary, cs)
      else
        let (word, after) := name (after.length + 2) [] (c :: after)
        match after with
        | '\x7d' :: after =>
          match String.ofList word with
          | "start" => some (.wordStart, after)
          | "end" => some (.wordEnd, after)
          | "start-half" => some (.wordStartHalf, after)
          | "end-half" => some (.wordEndHalf, after)
          | _ => none
        | _ => none
  | _ => some (.wordBoundary, cs)

/-- An escape after its backslash. -/
def escape? (x : Bool) (cs : List Char) : Option (Atom × List Char) :=
  let plain (c : Char) (rest : List Char) : Option (Atom × List Char) :=
    some (.literal ⟨c, false⟩, rest)
  let code (width : Nat) (rest : List Char) : Option (Atom × List Char) :=
    (hex? x width rest).map fun (l, rest) => (.literal l, rest)
  match cs with
  | [] => none
  | 'x' :: rest => code 2 rest
  | 'u' :: rest => code 4 rest
  | 'U' :: rest => code 8 rest
  | 'p' :: rest => (query? x rest).map fun (q, rest) => (.property false q, rest)
  | 'P' :: rest => (query? x rest).map fun (q, rest) => (.property true q, rest)
  | 'd' :: rest => some (.letter false .digit, rest)
  | 's' :: rest => some (.letter false .space, rest)
  | 'w' :: rest => some (.letter false .word, rest)
  | 'D' :: rest => some (.letter true .digit, rest)
  | 'S' :: rest => some (.letter true .space, rest)
  | 'W' :: rest => some (.letter true .word, rest)
  | 'a' :: rest => plain '\x07' rest
  | 'f' :: rest => plain '\x0c' rest
  | 't' :: rest => plain '\t' rest
  | 'n' :: rest => plain '\n' rest
  | 'r' :: rest => plain '\r' rest
  | 'v' :: rest => plain '\x0b' rest
  | 'A' :: rest => some (.assertion .startText, rest)
  | 'z' :: rest => some (.assertion .endText, rest)
  | 'b' :: rest => (boundary? x rest).map fun (a, rest) => (.assertion a, rest)
  | 'B' :: rest => some (.assertion .notWordBoundary, rest)
  | '<' :: rest => some (.assertion .wordStart, rest)
  | '>' :: rest => some (.assertion .wordEnd, rest)
  | c :: rest => if isPlainEscape c then plain c rest else none

/-! ## Bracketed classes -/

/-- The named ASCII classes. -/
def asciiClass? : String → Option (List (Char × Char))
  | "alnum" => some [('0', '9'), ('A', 'Z'), ('a', 'z')]
  | "alpha" => some [('A', 'Z'), ('a', 'z')]
  | "ascii" => some [('\x00', '\x7f')]
  | "blank" => some [('\t', '\t'), (' ', ' ')]
  | "cntrl" => some [('\x00', '\x1f'), ('\x7f', '\x7f')]
  | "digit" => some [('0', '9')]
  | "graph" => some [('!', '~')]
  | "lower" => some [('a', 'z')]
  | "print" => some [(' ', '~')]
  | "punct" => some [('!', '/'), (':', '@'), ('[', '\x60'), ('\x7b', '~')]
  | "space" => some [('\t', '\r'), (' ', ' ')]
  | "upper" => some [('A', 'Z')]
  | "word" => some [('0', '9'), ('A', 'Z'), ('_', '_'), ('a', 'z')]
  | "xdigit" => some [('0', '9'), ('A', 'F'), ('a', 'f')]
  | _ => none

/-- A named ASCII class after its opening bracket. -/
def ascii? (cs : List Char) : Option (ClassSet × List Char) :=
  match cs with
  | ':' :: rest =>
    let (negated, rest) := match rest with
      | '^' :: rest => (true, rest)
      | rest => (false, rest)
    let name := rest.takeWhile (· != ':')
    match rest.drop name.length with
    | ':' :: ']' :: rest => (asciiClass? (String.ofList name)).map fun rs => (.ascii negated rs, rest)
    | _ => none
  | _ => none

/-- One item of a class: an escape or a character. -/
def classAtom? (x : Bool) : List Char → Option (Atom × List Char)
  | [] => none
  | '\\' :: rest => escape? x rest
  | c :: rest => some (.literal ⟨c, false⟩, rest)

/-- An atom as an item of a class; assertions are no items. -/
def Atom.toClassSet? : Atom → Option ClassSet
  | .literal l => some (.literal l)
  | .letter negated c => some (.letter negated c)
  | .property negated q => some (.property negated q)
  | .assertion _ => none

/-- An item or a range of a class. -/
def classRange? (x : Bool) (cs : List Char) : Option (ClassSet × List Char) := do
  let (low, rest) ← classAtom? x cs
  match skip x rest with
  | [] => none
  | '-' :: after =>
    if peek x after == some ']' || peek x after == some '-' then
      pure (← low.toClassSet?, '-' :: after)
    else
      let (high, rest) ← classAtom? x (skip x after)
      match low, high with
      | .literal a, .literal b => if a.char ≤ b.char then some (.range a b, rest) else none
      | _, _ => none
  | rest => pure (← low.toClassSet?, rest)

/-- The items read so far as one set. -/
def unionOf : List ClassSet → ClassSet
  | [] => .nothing
  | [a] => a
  | a :: rest => .union (unionOf rest) a

/-- Joins a pending operation to its second operand. -/
def applyOp (pending : Option (SetOp × ClassSet)) (set : ClassSet) : ClassSet :=
  match pending with
  | some (o, first) => .op o first set
  | none => set

/-- Hyphens at the start of a class stand for themselves. -/
def leadingHyphens (x : Bool) : Nat → List ClassSet → List Char → List ClassSet × List Char
  | 0, acc, cs => (acc, cs)
  | fuel + 1, acc, cs =>
    match cs with
    | '-' :: rest => leadingHyphens x fuel (.literal ⟨'-', false⟩ :: acc) (skip x rest)
    | _ => (acc, cs)

/-- The start of a class after its opening bracket: whether it is negated, and the characters
that only stand for themselves here. -/
def classOpen? (x : Bool) (cs : List Char) : Option (Bool × List ClassSet × List Char) :=
  let (negated, cs) := match skip x cs with
    | '^' :: rest => (true, skip x rest)
    | rest => (false, rest)
  let (items, cs) := leadingHyphens x (cs.length + 1) [] cs
  let (items, cs) := match items, cs with
    | [], ']' :: rest => ([ClassSet.literal ⟨']', false⟩], skip x rest)
    | items, cs => (items, cs)
  if cs.isEmpty then none else some (negated, items, cs)

/-- The items of a class up to its closing bracket. -/
def classItems? (x : Bool) :
    Nat → Option (SetOp × ClassSet) → List ClassSet → List Char → Option (ClassSet × List Char)
  | 0, _, _, _ => none
  | fuel + 1, pending, items, cs =>
    let operator (o : SetOp) (rest : List Char) :=
      classItems? x fuel (some (o, applyOp pending (unionOf items))) [] rest
    match skip x cs with
    | [] => none
    | ']' :: rest => some (applyOp pending (unionOf items), rest)
    | '[' :: rest =>
      match ascii? rest with
      | some (set, rest) => classItems? x fuel pending (set :: items) rest
      | none => do
        let (negated, first, rest) ← classOpen? x rest
        let (set, rest) ← classItems? x fuel none first rest
        classItems? x fuel pending (.bracketed negated set :: items) rest
    | '&' :: '&' :: rest => operator .intersection rest
    | '-' :: '-' :: rest => operator .difference rest
    | '~' :: '~' :: rest => operator .symmetricDifference rest
    | cs => do
      let (item, rest) ← classRange? x cs
      classItems? x fuel pending (item :: items) rest

/-- A class after its opening bracket. -/
def class? (x : Bool) (cs : List Char) : Option (Pattern × List Char) := do
  let (negated, items, rest) ← classOpen? x cs
  let (set, rest) ← classItems? x (rest.length + 1) none items rest
  pure (.bracketed negated set, rest)

/-! ## Groups, repetitions and lists -/

/-- Items read so far, newest first, as one pattern. -/
def concatOf : List Pattern → Pattern
  | [] => .empty
  | [p] => p
  | ps => .concat ps.reverse

/-- Alternatives read so far, newest first, as one pattern. -/
def choiceOf : List Pattern → Pattern
  | [] => .empty
  | [p] => p
  | ps => .choice ps.reverse

/-- What stands after an opening parenthesis. -/
inductive Opening where
  | directive (flags : FlagList)
  | group (flags : FlagList) (name : Option String)

/-- The start of a group after its parenthesis; looking ahead or behind is refused. -/
def opening? (x : Bool) (cs : List Char) : Option (Opening × List Char) :=
  match skip x cs with
  | '?' :: '=' :: _ => none
  | '?' :: '!' :: _ => none
  | '?' :: '<' :: '=' :: _ => none
  | '?' :: '<' :: '!' :: _ => none
  | '?' :: 'P' :: '<' :: rest => (groupName? rest).map fun (n, rest) => (.group [] (some n), rest)
  | '?' :: '<' :: rest => (groupName? rest).map fun (n, rest) => (.group [] (some n), rest)
  | '?' :: rest => do
    let (fs, opensGroup, rest) ← flags? rest
    if opensGroup then some (.group fs none, rest)
    else if fs.isEmpty then none
    else some (.directive fs, rest)
  | rest => some (.group [] none, rest)

/-- Drops the mark of a lazy repetition, which reaches the same positions. -/
def dropLazyMark : List Char → List Char
  | '?' :: rest => rest
  | rest => rest

/-- The bounds of a counted repetition after its opening brace. -/
def bounds? (x : Bool) (cs : List Char) : Option (Nat × Option Nat × List Char) := do
  let (min, rest) ← count? x (skip x cs)
  let (max, rest) ← match rest with
    | ',' :: rest =>
      match skip x rest with
      | '\x7d' :: rest => some (none, '\x7d' :: rest)
      | rest => (count? x rest).map fun (n, rest) => (some n, rest)
    | rest => some (some min, rest)
  match rest with
  | '\x7d' :: rest => if max.all (min ≤ ·) then some (min, max, skip x rest) else none
  | _ => none

/-- Repeats the last item; flags are no item. -/
def repeatLast? (min : Nat) (max : Option Nat) : List Pattern → Option (List Pattern)
  | [] => none
  | .flags _ :: _ => none
  | p :: rest => some (.repetition p min max :: rest)

/-- Where the reader stands: the text left, the flag `x`, and the group names seen. -/
structure State where
  rest : List Char
  x : Bool
  names : List String

/-- Reads up to the parenthesis that closes the group, or the end. Items and alternatives are
kept newest first. -/
def items? : Nat → List Pattern → List Pattern → State → Option (Pattern × State)
  | 0, _, _, _ => none
  | fuel + 1, items, alts, st =>
    let next (p : Pattern) (rest : List Char) :=
      items? fuel (p :: items) alts { st with rest }
    let repeated (min : Nat) (max : Option Nat) (rest : List Char) := do
      items? fuel (← repeatLast? min max items) alts { st with rest := dropLazyMark rest }
    let finish (rest : List Char) : Option (Pattern × State) :=
      some (choiceOf (concatOf items :: alts), { st with rest })
    match skip st.x st.rest with
    | [] => finish []
    | ')' :: rest => finish (')' :: rest)
    | '|' :: rest => items? fuel [] (concatOf items :: alts) { st with rest }
    | '(' :: rest => do
      match ← opening? st.x rest with
      | (.directive fs, rest) =>
        let x := (fs.state? .ignoreWhitespace).getD st.x
        items? fuel (.flags fs :: items) alts { st with rest, x }
      | (.group fs name, rest) =>
        if name.any st.names.contains then none
        let x := (fs.state? .ignoreWhitespace).getD st.x
        let (body, inner) ← items? fuel [] [] ⟨rest, x, name.toList ++ st.names⟩
        match inner.rest with
        | ')' :: rest =>
          items? fuel (.group fs body :: items) alts ⟨rest, st.x, inner.names⟩
        | _ => none
    | '[' :: rest => do
      let (p, rest) ← class? st.x rest
      next p rest
    | '?' :: rest => repeated 0 (some 1) rest
    | '*' :: rest => repeated 0 none rest
    | '+' :: rest => repeated 1 none rest
    | '\x7b' :: rest => do
      let (min, max, rest) ← bounds? st.x rest
      repeated min max rest
    | '\\' :: rest => do
      match ← escape? st.x rest with
      | (.literal l, rest) => next (.literal l) rest
      | (.assertion a, rest) => next (.assertion a) rest
      | (.letter negated c, rest) => next (.letter negated c) rest
      | (.property negated q, rest) => next (.property negated q) rest
    | '.' :: rest => next .dot rest
    | '^' :: rest => next (.assertion .startLine) rest
    | '$' :: rest => next (.assertion .endLine) rest
    | c :: rest => next (.literal ⟨c, false⟩) rest

/-- How deeply a pattern may be nested. -/
def depthLimit : Nat := 250

/-- The tree of a pattern's text, with the flag `x` as it is at the start. -/
def parse? (text : String) (x : Bool) : Option Pattern := do
  let cs := text.toList
  let (p, st) ← items? (2 * cs.length + 2) [] [] ⟨cs, x, []⟩
  if st.rest.isEmpty && p.depth ≤ depthLimit then some p else none

end Regex.Pattern

end DocStore
