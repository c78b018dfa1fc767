/-!
# Words

Signed numbers of 64 bits: the sizes and counts that a machine can hold.
-/

namespace LevelForge.Word64

/-- The largest word. -/
def largest : Nat := 9223372036854775807

/-- Whether a number is a word. -/
def fits (n : Int) : Bool := decide (-(largest : Int) - 1 ≤ n ∧ n ≤ largest)

/-- A count is a word as soon as it is not too large. -/
theorem fits_natCast (n : Nat) : fits n = decide (n ≤ largest) := by
  simp only [fits, decide_eq_decide]
  omega

end LevelForge.Word64
