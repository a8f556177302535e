/-!
# Regular expressions and their matches

A `Regex` is built from single characters, assertions about a position, concatenation, choice
and repetition. A search asks only whether some part of a text matches, so the matcher follows
the set of all positions that can be reached at once. Such a set is a natural number whose bit
`i` says that position `i` is in it: reading a character shifts the set, a choice joins two
sets, and a repetition joins sets until nothing new is reached.
-/

namespace DocStore

/-- A condition on a position of the text. -/
inductive Regex.Look where
  | start
  | finish
  | lineStart
  | lineFinish
  | lineStartCRLF
  | lineFinishCRLF
  | boundary (isWord : Char → Bool)
  | notBoundary (isWord : Char → Bool)
  | wordStart (isWord : Char → Bool)
  | wordFinish (isWord : Char → Bool)
  | wordStartHalf (isWord : Char → Bool)
  | wordFinishHalf (isWord : Char → Bool)

/-- A regular expression over characters. -/
inductive Regex where
  | empty
  | char (accepts : Char → Bool)
  | look (condition : Regex.Look)
  | cat (first second : Regex)
  | alt (first second : Regex)
  | repetition (body : Regex) (min : Nat) (max : Option Nat)

namespace Regex

/-- The positions at which a condition on the characters before and after holds. -/
def positions (holds : Option Char → Option Char → Bool) : Option Char → List Char → Nat
  | before, [] => (holds before none).toNat
  | before, c :: rest => (holds before (some c)).toNat + 2 * positions holds (some c) rest

/-- Whether the condition holds between two characters, `none` standing for an end of the
text. -/
def Look.holds : Look → Option Char → Option Char → Bool
  | .start, before, _ => before.isNone
  | .finish, _, after => after.isNone
  | .lineStart, before, _ => before.all (· == '\n')
  | .lineFinish, _, after => after.all (· == '\n')
  | .lineStartCRLF, before, after =>
    match before with
    | none => true
    | some '\n' => true
    | some '\r' => after != some '\n'
    | some _ => false
  | .lineFinishCRLF, before, after =>
    match after with
    | none => true
    | some '\r' => true
    | some '\n' => before != some '\r'
    | some _ => false
  | .boundary isWord, before, after => before.any isWord != after.any isWord
  | .notBoundary isWord, before, after => before.any isWord == after.any isWord
  | .wordStart isWord, before, after => !before.any isWord && after.any isWord
  | .wordFinish isWord, before, after => before.any isWord && !after.any isWord
  | .wordStartHalf isWord, before, _ => !before.any isWord
  | .wordFinishHalf isWord, _, after => !after.any isWord

/-- A regular expression as steps on sets of positions of one text. -/
inductive Moves where
  /-- Keeps the positions of the set. -/
  | stay (set : Nat)
  /-- Moves the positions of the set one to the right and drops the others. -/
  | advance (set : Nat)
  | cat (first second : Moves)
  | alt (first second : Moves)
  /-- The body `min` times, then up to `more` times again. -/
  | repetition (body : Moves) (min more : Nat)

/-- The steps of a regular expression on a text. -/
def moves (text : List Char) : Regex → Moves
  | .empty => .stay (positions (fun _ _ => true) none text)
  | .char accepts => .advance (positions (fun _ after => after.any accepts) none text)
  | .look condition => .stay (positions condition.holds none text)
  | .cat a b => .cat (a.moves text) (b.moves text)
  | .alt a b => .alt (a.moves text) (b.moves text)
  | .repetition a min max =>
    .repetition (a.moves text) min (match max with
      | some n => n - min
      | none => text.length + 1)

/-- Applies a step a number of times, stopping early where it changes nothing. -/
def iterate (step : Nat → Nat) : Nat → Nat → Nat
  | 0, s => s
  | n + 1, s =>
    let t := step s
    if t = s then s else iterate step n t

/-- Joins what a step reaches to the set, a number of times, stopping early where nothing is
new. -/
def saturate (step : Nat → Nat) : Nat → Nat → Nat
  | 0, s => s
  | n + 1, s =>
    let t := s ||| step s
    if t = s then s else saturate step n t

/-- The positions reached from a set of positions. -/
def Moves.reach : Moves → Nat → Nat
  | .stay set, s => s &&& set
  | .advance set, s => (s &&& set) <<< 1
  | .cat a b, s => b.reach (a.reach s)
  | .alt a b, s => a.reach s ||| b.reach s
  | .repetition a min more, s => saturate a.reach more (iterate a.reach min s)

/-- Whether some part of the text matches. -/
def isMatch (r : Regex) (text : String) : Bool :=
  let cs := text.toList
  (r.moves cs).reach (positions (fun _ _ => true) none cs) != 0

/-- Concatenation of a list. -/
def ofConcat : List Regex → Regex
  | [] => .empty
  | [r] => r
  | r :: rest => .cat r (ofConcat rest)

/-- Choice from a list; the empty choice matches nothing. -/
def ofChoice : List Regex → Regex
  | [] => .char fun _ => false
  | [r] => r
  | r :: rest => .alt r (ofChoice rest)

/-- The characters with a meaning of their own in a pattern. -/
def isMeta (c : Char) : Bool :=
  ['\\', '.', '+', '*', '?', '(', ')', '|', '[', ']', '\x7b', '\x7d', '^', '$', '#', '&', '-',
    '~'].contains c

/-- The pattern that matches a text literally. -/
def escape (text : String) : String :=
  String.ofList (text.toList.flatMap fun c => if isMeta c then ['\\', c] else [c])

end Regex

end DocStore
