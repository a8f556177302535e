/-!
# Time

A clock counts milliseconds. It moves when somebody waits, and it may move between two readings;
it never runs backwards.
-/

namespace DocStore

/-- A clock, with the amounts by which the next readings find it moved on. -/
structure Clock where
  now : Nat := 0
  drifts : List Nat := []

namespace Clock

/-- Reads the clock. -/
def read (c : Clock) : Nat × Clock :=
  match c.drifts with
  | [] => (c.now, c)
  | d :: later => (c.now + d, ⟨c.now + d, later⟩)

/-- The clock after a wait. -/
def wait (c : Clock) (ms : Nat) : Clock := { c with now := c.now + ms }

/-- A reading is the time that the clock then shows. -/
theorem read_fst (c : Clock) : c.read.1 = c.read.2.now := by
  unfold read; split <;> rfl

/-- The clock never runs backwards. -/
theorem now_le_read (c : Clock) : c.now ≤ c.read.1 := by
  unfold read; split <;> simp

end Clock

end DocStore
