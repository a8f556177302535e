/-!
# Ranges of words

The integers that fit words of 32 and 64 bits.
-/

namespace DocStore

/-- The integer fits 64 bits with a sign. -/
abbrev FitsInt64 (i : Int) : Prop := -9223372036854775808 ≤ i ∧ i ≤ 9223372036854775807

/-- The number fits 64 bits. -/
abbrev FitsNat64 (n : Nat) : Prop := n ≤ 18446744073709551615

/-- The integer fits 32 bits with a sign. -/
abbrev FitsInt32 (i : Int) : Prop := -2147483648 ≤ i ∧ i ≤ 2147483647

/-- The number fits 32 bits. -/
abbrev FitsNat32 (n : Nat) : Prop := n ≤ 4294967295

end DocStore
