import DocStore.Regex.Pattern
import DocStore.Text.Blank
import DocStore.Unicode.Category
import DocStore.Unicode.Folding
import DocStore.Unicode.Property
import DocStore.Unicode.Script
import DocStore.Unicode.ScriptExtension

/-!
# Sets of characters in patterns

A written class stands for a set of characters, given by its test. Letters `\d`, `\s` and `\w`,
named classes and negation range over all characters, or over ASCII where the flag `u` is off;
there a class with characters outside ASCII is refused. Ignoring case adds to a set all the
characters that are the same letter as one of its members.
-/

namespace DocStore

namespace Regex

/-- A set of characters. -/
abbrev CharSet := Char → Bool

namespace CharSet

/-- The characters in a list of ranges of code points. -/
def ofRanges (rs : List (Nat × Nat)) : CharSet := fun c => Unicode.CodePoints.member rs c.toNat

/-- The set with every character that is the same letter as a member. -/
def foldCase (s : CharSet) : CharSet := fun c =>
  s c || (Unicode.foldingOrbit c.toNat).any fun n => s (Char.ofNat n)

/-- The set with the ASCII letters of either case. -/
def foldAsciiCase (s : CharSet) : CharSet := fun c => s c || s c.toUpper || s c.toLower

/-- Whether no member lies outside ASCII: such sets are tested on bytes, so one byte outside is
as good as another. -/
def isAscii (s : CharSet) : Bool :=
  (List.range 128).all fun n => !s (Char.ofNat (128 + n))

end CharSet

/-! ## Classes by name -/

/-- The decimal digits. -/
def digitRanges : List (Nat × Nat) := (Unicode.findSet? Unicode.categories "nd").getD []

/-- The letters, marks, digits, connectors and joiners. -/
def wordRanges : List (Nat × Nat) :=
  (Unicode.findSet? Unicode.properties "alpha").getD [] ++
    (["mc", "me", "mn", "nd", "pc"].flatMap fun n =>
      (Unicode.findSet? Unicode.categories n).getD []) ++
    (Unicode.findSet? Unicode.properties "joinc").getD []

/-- Whether a character belongs to a word. -/
def isWordChar (c : Char) : Bool :=
  c.isAlphanum || c == '_' || (0x80 ≤ c.toNat && CharSet.ofRanges wordRanges c)

/-- Whether an ASCII character belongs to a word. -/
def isAsciiWordChar (c : Char) : Bool := c.isAlphanum || c == '_'

/-- The set of a letter class. -/
def LetterClass.toCharSet : LetterClass → CharSet
  | .digit => CharSet.ofRanges digitRanges
  | .space => Text.isBlank
  | .word => isWordChar

/-- The ASCII part of a letter class. -/
def LetterClass.toAsciiCharSet : LetterClass → CharSet
  | .digit => Char.isDigit
  | .space => fun c => c == ' ' || ('\t' ≤ c && c ≤ '\r')
  | .word => isAsciiWordChar

/-- The loose form of a name: ASCII, in lower case, without blanks, underscores, hyphens and a
leading `is`. -/
def looseName (name : String) : String :=
  let cs := name.toList
  let lower (cs : List Char) : List Char :=
    (cs.filter fun c => c != ' ' && c != '_' && c != '-' && c.toNat < 0x80).map Char.toLower
  match cs with
  | i :: s :: rest =>
    if i.toLower == 'i' && s.toLower == 's' then
      let body := lower rest
      if body == ['c'] then "isc" else String.ofList body
    else String.ofList (lower cs)
  | _ => String.ofList (lower cs)

/-- The set of a general category or a group of them. -/
def category? (name : String) : Option CharSet :=
  if name == "any" then some fun _ => true
  else if name == "assigned" then
    (Unicode.findSet? Unicode.categories "cn").map fun rs c => !CharSet.ofRanges rs c
  else if name == "ascii" then some fun c => c.toNat < 0x80
  else if name == "cs" || name == "surrogate" then none
  else match Unicode.findSet? Unicode.categories name with
    | some rs => some (CharSet.ofRanges rs)
    | none => (Unicode.categoryGroups.find? fun g => g.1.contains name).map fun g =>
      CharSet.ofRanges (g.2.flatMap fun n => (Unicode.findSet? Unicode.categories n).getD [])

/-- The set that a query names. -/
def PropertyQuery.toCharSet? : PropertyQuery → Option CharSet
  | .name n =>
    let name := looseName n
    let property :=
      if name == "cf" || name == "sc" || name == "lc" then none
      else Unicode.findSet? Unicode.properties name
    match property, category? name with
    | some rs, _ => some (CharSet.ofRanges rs)
    | none, some s => some s
    | none, none => (Unicode.findSet? Unicode.scripts name).map CharSet.ofRanges
  | .value p v negated =>
    let property := looseName p
    let member := looseName v
    let set :=
      if property == "gc" || property == "generalcategory" then category? member
      else if property == "sc" || property == "script" then
        (Unicode.findSet? Unicode.scripts member).map CharSet.ofRanges
      else if property == "scx" || property == "scriptextensions" then
        (Unicode.findSet? Unicode.scriptExtensions member).map CharSet.ofRanges
      else none
    set.map fun s c => negated != s c

/-! ## Classes in brackets -/

/-- What is switched on where a class stands. -/
structure ClassMode where
  ignoreCase : Bool
  unicode : Bool

/-- The set after ignoring case and negation, where the mode allows it. -/
def ClassMode.close? (m : ClassMode) (negated : Bool) (s : CharSet) : Option CharSet :=
  let folded := if m.ignoreCase then if m.unicode then s.foldCase else s.foldAsciiCase else s
  let set : CharSet := fun c => negated != folded c
  if m.unicode || set.isAscii then some set else none

/-- A letter class, negated or not. -/
def ClassMode.letter? (m : ClassMode) (negated : Bool) (c : LetterClass) : Option CharSet :=
  if m.unicode then some fun ch => negated != c.toCharSet ch
  else
    let set : CharSet := fun ch => negated != c.toAsciiCharSet ch
    if set.isAscii then some set else none

/-- A Unicode class, negated or not. -/
def ClassMode.property? (m : ClassMode) (negated : Bool) (q : PropertyQuery) : Option CharSet :=
  if m.unicode then do m.close? negated (← q.toCharSet?) else none

/-- Whether a literal may stand where the flag `u` is off. -/
def ClassMode.allows (m : ClassMode) (l : Literal) : Bool := m.unicode || l.char.toNat < 0x80

/-- The set that a class stands for before the brackets around it are closed. -/
def ClassSet.toCharSet? (m : ClassMode) : ClassSet → Option CharSet
  | .literal l => if m.allows l then some fun c => c == l.char else none
  | .range low high =>
    if m.allows low && m.allows high then some fun c => low.char ≤ c && c ≤ high.char else none
  | .ascii negated rs => m.close? negated fun c => rs.any fun r => r.1 ≤ c && c ≤ r.2
  | .letter negated c => m.letter? negated c
  | .property negated q => m.property? negated q
  | .bracketed negated set => do m.close? negated (← set.toCharSet? m)
  | .nothing => some fun _ => false
  | .union a b => do
    let s ← a.toCharSet? m
    let t ← b.toCharSet? m
    pure fun c => s c || t c
  | .op o a b => do
    let s ← a.toCharSet? m
    let t ← b.toCharSet? m
    let fold (u : CharSet) : CharSet :=
      if m.ignoreCase then if m.unicode then u.foldCase else u.foldAsciiCase else u
    let s := fold s
    let t := fold t
    pure fun c => match o with
      | .intersection => s c && t c
      | .difference => s c && !t c
      | .symmetricDifference => s c != t c

end Regex

end DocStore
