import DocStore.Unicode.Category
import DocStore.Unicode.Property

/-!
# Quoted text in messages

A string shown inside a message stands between quotes, with characters that cannot be seen, or
that attach to the one before, written as their code points.
-/

namespace DocStore.Text

/-- The code points that are never shown as themselves: controls, formats, surrogates,
private-use and unassigned ones, separators, and those that extend a grapheme. -/
def hiddenRanges : List (Nat × Nat) :=
  ["cc", "cf", "cs", "co", "cn", "zl", "zp", "zs"].flatMap
      (fun c => (Unicode.findSet? Unicode.categories c).getD []) ++
    (Unicode.findSet? Unicode.properties "grext").getD []

/-- Whether a character is shown as itself. -/
def isShown (c : Char) : Bool :=
  c == ' ' || (0x20 < c.toNat && c.toNat < 0x7f) || !Unicode.CodePoints.member hiddenRanges c.toNat

/-- A character inside quotes. -/
def quoteChar (c : Char) : List Char :=
  if c == '\x00' then ['\\', '0']
  else if c == '\t' then ['\\', 't']
  else if c == '\r' then ['\\', 'r']
  else if c == '\n' then ['\\', 'n']
  else if c == '"' then ['\\', '"']
  else if c == '\\' then ['\\', '\\']
  else if isShown c then [c]
  else '\\' :: 'u' :: '\x7b' :: Nat.toDigits 16 c.toNat ++ ['\x7d']

/-- A string in quotes. -/
def quoted (s : String) : String :=
  String.ofList ('"' :: s.toList.flatMap quoteChar ++ ['"'])

end DocStore.Text
