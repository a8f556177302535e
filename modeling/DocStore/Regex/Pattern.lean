/-!
# Patterns

The tree of a written pattern: what stands in the text, before flags and named classes are given
a meaning.
-/

namespace DocStore

namespace Regex

/-- The flags of a pattern. -/
inductive Flag where
  | caseInsensitive
  | multiLine
  | dotMatchesNewLine
  | swapGreed
  | unicode
  | crlf
  | ignoreWhitespace
deriving DecidableEq, Repr

/-- A written list of flags, each with whether it is switched on. -/
abbrev FlagList := List (Flag × Bool)

/-- What a list of flags says about one of them. -/
def FlagList.state? (flags : FlagList) (f : Flag) : Option Bool := List.lookup f flags

/-- A written assertion. -/
inductive Assertion where
  | startLine
  | endLine
  | startText
  | endText
  | wordBoundary
  | notWordBoundary
  | wordStart
  | wordEnd
  | wordStartHalf
  | wordEndHalf
deriving DecidableEq, Repr

/-- The three classes with a letter of their own. -/
inductive LetterClass where
  | digit
  | space
  | word
deriving DecidableEq, Repr

/-- How a Unicode class is named. -/
inductive PropertyQuery where
  | name (name : String)
  | value (property value : String) (negated : Bool)
deriving DecidableEq, Repr

/-- A literal character, and whether it was written as a byte, `\xNN`. -/
structure Literal where
  char : Char
  asByte : Bool := false
deriving DecidableEq, Repr

/-- The ways of combining two sets of characters. -/
inductive SetOp where
  | intersection
  | difference
  | symmetricDifference
deriving DecidableEq, Repr

/-- A set of characters between brackets. -/
inductive ClassSet where
  | literal (l : Literal)
  | range (low high : Literal)
  | ascii (negated : Bool) (ranges : List (Char × Char))
  | letter (negated : Bool) (c : LetterClass)
  | property (negated : Bool) (query : PropertyQuery)
  | bracketed (negated : Bool) (set : ClassSet)
  | nothing
  | union (first second : ClassSet)
  | op (o : SetOp) (first second : ClassSet)

/-- A written pattern. -/
inductive Pattern where
  | empty
  | flags (flags : FlagList)
  | literal (l : Literal)
  | dot
  | assertion (a : Assertion)
  | letter (negated : Bool) (c : LetterClass)
  | property (negated : Bool) (query : PropertyQuery)
  | bracketed (negated : Bool) (set : ClassSet)
  | repetition (body : Pattern) (min : Nat) (max : Option Nat)
  | group (flags : FlagList) (body : Pattern)
  | concat (items : List Pattern)
  | choice (items : List Pattern)

namespace ClassSet

/-- How deeply brackets and set operations are nested. -/
def depth : ClassSet → Nat
  | .bracketed _ set => set.depth + 1
  | .union a b => max a.depth b.depth
  | .op _ a b => max a.depth b.depth + 1
  | _ => 0

end ClassSet

namespace Pattern

mutual

/-- How deeply groups, repetitions, lists and brackets are nested. -/
def depth : Pattern → Nat
  | .bracketed _ set => set.depth + 1
  | .repetition body _ _ => body.depth + 1
  | .group _ body => body.depth + 1
  | .concat items => depthOfItems items + 1
  | .choice items => depthOfItems items + 1
  | _ => 0

/-- The depth of the deepest item. -/
def depthOfItems : List Pattern → Nat
  | [] => 0
  | p :: ps => max p.depth (depthOfItems ps)

end

mutual

/-- Whether the pattern can only match the empty text. -/
def isZeroWidth : Pattern → Bool
  | .empty => true
  | .flags _ => true
  | .assertion _ => true
  | .repetition body _ max => body.isZeroWidth || max == some 0
  | .group _ body => body.isZeroWidth
  | .concat items => areZeroWidth items
  | .choice items => areZeroWidth items
  | _ => false

/-- Whether every item can only match the empty text. -/
def areZeroWidth : List Pattern → Bool
  | [] => true
  | p :: ps => p.isZeroWidth && areZeroWidth ps

end

/-- The bytes that one state of the matching automaton takes. -/
def stateSize : Nat := 32

/-- The bytes that the automaton of a set of characters takes, roughly. -/
def classSize : ClassSet → Nat
  | .literal l => stateSize * l.char.utf8Size
  | .range _ high => if high.char.toNat < 0x80 then stateSize else 8 * stateSize
  | .ascii _ _ => 2 * stateSize
  | .letter _ .word => 46000
  | .letter _ .digit => 4600
  | .letter _ .space => 600
  | .property _ _ => 30000
  | .bracketed _ set => classSize set
  | .nothing => stateSize
  | .union a b => classSize a + classSize b
  | .op _ a b => max (classSize a) (classSize b)

mutual

/-- The bytes that the automaton of a pattern takes, roughly; repetitions are written out. -/
def size : Pattern → Nat
  | .empty => stateSize
  | .flags _ => stateSize
  | .literal l => stateSize * l.char.utf8Size
  | .dot => 600
  | .assertion _ => stateSize
  | .letter negated c => classSize (.letter negated c)
  | .property negated q => classSize (.property negated q)
  | .bracketed _ set => classSize set
  | .repetition body min max =>
    let copies (n : Nat) := if body.isZeroWidth then Nat.min n 1 else n
    match max with
    | some n => copies min * body.size + copies (n - min) * (body.size + stateSize)
    | none => copies (Nat.max min 1) * body.size + stateSize
  | .group _ body => body.size + 2 * stateSize
  | .concat items => sizeOfItems items
  | .choice items => sizeOfItems items + stateSize

/-- The sum of the sizes of the items. -/
def sizeOfItems : List Pattern → Nat
  | [] => 0
  | p :: ps => p.size + sizeOfItems ps

end

end Pattern

end Regex

end DocStore
