import DocStore.Json

/-!
# Generated identifiers

A supply of identifiers for documents that come without one. Each is a text in the form of a
random UUID whose last group counts.
-/

namespace DocStore

/-- A supply of identifiers. -/
structure IdSupply where
  next : Nat := 0

namespace IdSupply

/-- A number in hexadecimal with at least the given number of digits. -/
def hexadecimal (width n : Nat) : String :=
  let digits := Nat.toDigits 16 n
  String.ofList (List.replicate (width - digits.length) '0' ++ digits)

/-- The next identifier, and the supply without it. -/
def take (s : IdSupply) : String × IdSupply :=
  ("d0c5708e-6f1a-4b7d-9e23-" ++ hexadecimal 12 s.next, ⟨s.next + 1⟩)

end IdSupply

namespace Fields

/-- The identifier of a document, with the document that has it: a missing one is generated and
stands at the end, or at the front where `first` says so. -/
def identify (first : Bool) (fs : Fields) (ids : IdSupply) : Json × Fields × IdSupply :=
  match fs.get? "_id" with
  | some id => (id, fs, ids)
  | none =>
    let (text, ids) := ids.take
    (.str text, if first then ("_id", .str text) :: fs else fs ++ [("_id", .str text)], ids)

end Fields

end DocStore
