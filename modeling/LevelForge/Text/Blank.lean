import LevelForge.Text.CodePoints

/-!
# Blanks

The characters that separate lexemes and that are trimmed from the value of a setting: the
controls U+0009 to U+000D and U+001C to U+001F, the space, the next-line control, the no-break
space and the other space separators of Unicode 14.
-/

namespace LevelForge.Text

/-- The runs of blank code points. -/
def blankRuns : List (Nat × Nat) :=
  [(0x9, 0xD), (0x1C, 0x20), (0x85, 0x85), (0xA0, 0xA0), (0x1680, 0x1680), (0x2000, 0x200A),
   (0x2028, 0x2029), (0x202F, 0x202F), (0x205F, 0x205F), (0x3000, 0x3000)]

/-- Whether a character is blank. -/
def isBlank (c : Char) : Bool :=
  inRuns blankRuns c.toNat

/-- The characters of a text without the blanks at its two ends. -/
def trim (drop : Char → Bool) (text : List Char) : List Char :=
  ((text.dropWhile drop).reverse.dropWhile drop).reverse

theorem isBlank_iff {c : Char} :
    isBlank c = true ↔ ∃ run ∈ blankRuns, run.1 ≤ c.toNat ∧ c.toNat ≤ run.2 := by
  have hascending : Ascending blankRuns := by unfold Ascending; decide
  exact inRuns_iff hascending c.toNat

/-- The space, the tab and the two line ends are blank. -/
theorem isBlank_of_isWhitespace {c : Char} (h : c.isWhitespace = true) : isBlank c = true := by
  simp only [Char.isWhitespace, Bool.or_eq_true, decide_eq_true_eq] at h
  rcases h with ((rfl | rfl) | rfl) | rfl <;> decide

end LevelForge.Text
