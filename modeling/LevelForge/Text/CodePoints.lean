/-!
# Sets of code points

A character class of the level language is a set of code points, written as a list of closed runs
in ascending order. The classes themselves are tables beside this module: `Text.Blank`,
`Text.Alphanumeric`, `Text.DecimalDigit` and `Text.Printable`.

* `inRuns_iff`: over ascending runs, membership is membership in one of the runs.
-/

namespace LevelForge.Text

/-- Whether a code point lies in one of the runs `(first, last)`. The runs ascend, so the search
is over at the first run that starts above the code point. -/
def inRuns : List (Nat × Nat) → Nat → Bool
  | [], _ => false
  | (first, last) :: rest, n => decide (first ≤ n) && (decide (n ≤ last) || inRuns rest n)

/-- Runs ascend when each starts after the ones before it. -/
def Ascending (runs : List (Nat × Nat)) : Prop :=
  runs.Pairwise fun a b => a.1 ≤ b.1

/-- Over ascending runs, membership is membership in one of them. -/
theorem inRuns_iff {runs : List (Nat × Nat)} (h : Ascending runs) (n : Nat) :
    inRuns runs n = true ↔ ∃ run ∈ runs, run.1 ≤ n ∧ n ≤ run.2 := by
  induction runs with
  | nil => simp [inRuns]
  | cons run rest ih =>
    obtain ⟨first, last⟩ := run
    have hrest := List.pairwise_cons.mp h
    simp only [inRuns, Bool.and_eq_true, Bool.or_eq_true, decide_eq_true_eq, ih hrest.2,
      List.mem_cons, exists_eq_or_imp]
    constructor
    · rintro ⟨hfirst, hlast | hmem⟩
      · exact .inl ⟨hfirst, hlast⟩
      · exact .inr hmem
    · rintro (⟨hfirst, hlast⟩ | ⟨run, hmem, hle, hlast⟩)
      · exact ⟨hfirst, .inl hlast⟩
      · exact ⟨Nat.le_trans (hrest.1 run hmem) hle, .inr ⟨run, hmem, hle, hlast⟩⟩

end LevelForge.Text
