import DocStore.Regex.Basic
import DocStore.Regex.CharClass
import DocStore.Regex.Pattern.Reader

/-!
# The meaning of patterns

`Pattern.toRegex?` gives the regular expression that a written pattern stands for under the
flags in force, and `Regex.ofString` reads a text in one step. A pattern is refused when it is
malformed, when it names an unknown class, when it could match a part of a character, or when
its written-out automaton is too large.
-/

namespace DocStore

namespace Regex

/-- The flags in force at a point of a pattern. -/
structure Mode where
  ignoreCase : Bool := false
  multiLine : Bool := false
  dotAll : Bool := false
  unicode : Bool := true
  crlf : Bool := false

namespace Mode

/-- The mode after a list of flags. -/
def apply (m : Mode) (flags : FlagList) : Mode where
  ignoreCase := (flags.state? .caseInsensitive).getD m.ignoreCase
  multiLine := (flags.state? .multiLine).getD m.multiLine
  dotAll := (flags.state? .dotMatchesNewLine).getD m.dotAll
  unicode := (flags.state? .unicode).getD m.unicode
  crlf := (flags.state? .crlf).getD m.crlf

/-- The part of the mode that classes depend on. -/
def classMode (m : Mode) : ClassMode := ⟨m.ignoreCase, m.unicode⟩

/-- The word characters in force. -/
def wordChar (m : Mode) : Char → Bool := if m.unicode then isWordChar else isAsciiWordChar

end Mode

/-- The condition of a written assertion. -/
def Assertion.toLook (m : Mode) : Assertion → Look
  | .startLine => if !m.multiLine then .start else if m.crlf then .lineStartCRLF else .lineStart
  | .endLine => if !m.multiLine then .finish else if m.crlf then .lineFinishCRLF else .lineFinish
  | .startText => .start
  | .endText => .finish
  | .wordBoundary => .boundary m.wordChar
  | .notWordBoundary => .notBoundary m.wordChar
  | .wordStart => .wordStart m.wordChar
  | .wordEnd => .wordFinish m.wordChar
  | .wordStartHalf => .wordStartHalf m.wordChar
  | .wordEndHalf => .wordFinishHalf m.wordChar

/-- A literal; a byte outside ASCII is refused where the flag `u` is off. -/
def Literal.toRegex? (m : Mode) (l : Literal) : Option Regex :=
  let set : CharSet := fun c => c == l.char
  if m.unicode then some (.char (if m.ignoreCase then set.foldCase else set))
  else if l.asByte && 0x80 ≤ l.char.toNat then none
  else some (.char (if m.ignoreCase then set.foldAsciiCase else set))

/-- Any character, line ends apart unless the flag `s` is on. -/
def dot? (m : Mode) : Option Regex :=
  if !m.unicode then none
  else if m.dotAll then some (.char fun _ => true)
  else if m.crlf then some (.char fun c => c != '\n' && c != '\r')
  else some (.char fun c => c != '\n')

namespace Pattern

mutual

/-- The regular expression of a pattern and the mode after it; flags last to the end of the
group that they stand in. -/
def toRegex? (m : Mode) : Pattern → Option (Regex × Mode)
  | .empty => some (.empty, m)
  | .flags fs => some (.empty, m.apply fs)
  | .literal l => (l.toRegex? m).map (·, m)
  | .dot => (dot? m).map (·, m)
  | .assertion a => some (.look (a.toLook m), m)
  | .letter negated c => (m.classMode.letter? negated c).map fun s => (.char s, m)
  | .property negated q => (m.classMode.property? negated q).map fun s => (.char s, m)
  | .bracketed negated set => do
    let s ← m.classMode.close? negated (← set.toCharSet? m.classMode)
    pure (.char s, m)
  | .repetition body min max => do
    let (r, m) ← body.toRegex? m
    pure (.repetition r min max, m)
  | .group fs body => do
    let (r, _) ← body.toRegex? (m.apply fs)
    pure (r, m)
  | .concat items => do
    let (rs, m) ← toRegexes? m items
    pure (ofConcat rs, m)
  | .choice items => do
    let (rs, m) ← toRegexes? m items
    pure (ofChoice rs, m)

/-- The regular expressions of a list, each under the mode that the one before it left. -/
def toRegexes? (m : Mode) : List Pattern → Option (List Regex × Mode)
  | [] => some ([], m)
  | p :: ps => do
    let (r, m) ← p.toRegex? m
    let (rs, m) ← toRegexes? m ps
    pure (r :: rs, m)

end

end Pattern

/-- Why a text is no usable pattern. -/
inductive Fault where
  | malformed
  | tooLarge
deriving DecidableEq, Repr

/-- The largest size of a written-out automaton, in bytes. -/
def sizeLimit : Nat := 10 * 1024 * 1024

/-- The wording of a fault. -/
def Fault.message : Fault → String
  | .malformed => "regex parse error: malformed pattern"
  | .tooLarge => "Compiled regex exceeds size limit of 10485760 bytes."

/-- The regular expression of a pattern's text, under flags that are set from the start. -/
def ofString (text : String) (flags : FlagList := []) : Except Fault Regex :=
  match Pattern.parse? text ((flags.state? .ignoreWhitespace).getD false) with
  | none => .error .malformed
  | some p =>
    match p.toRegex? (Mode.apply {} flags) with
    | none => .error .malformed
    | some (r, _) => if p.size ≤ sizeLimit then .ok r else .error .tooLarge

end Regex

end DocStore
