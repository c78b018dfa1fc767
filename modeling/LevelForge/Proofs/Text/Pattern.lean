import Mathlib.Data.List.Forall2

/-!
# Patterns

A pattern is a sequence of pieces, each a fixed text or a run of characters of a class. A matcher
goes through the pieces, takes as much as it can for each run and gives back one character after the
other when what is left does not match. Whatever the order in which it tries, it finds a cut of the
text into the pieces exactly if there is one.

* `Pattern.Cuts`: a cut of a text into the pieces of a pattern.
* `Pattern.match?`: the cut that a matcher finds.
* `Pattern.mem_candidates_iff`: a matcher comes to every cut and to nothing else.
-/

namespace LevelForge.Text

/-- A piece of a pattern. -/
inductive Piece where
  | fixed (text : List Char)
  -- one character of a class at least
  | run (isIn : Char → Bool)

/-- What a piece stands for. -/
def Piece.Matches : Piece → List Char → Prop
  | .fixed text, part => part = text
  | .run isIn, part => part ≠ [] ∧ ∀ c ∈ part, isIn c = true

/-- The ways in which a run can begin a text, the longest one first, and what they leave. -/
def splitRun (isIn : Char → Bool) : List Char → List (List Char × List Char)
  | [] => []
  | c :: rest =>
    if isIn c then
      (splitRun isIn rest).map (fun split => (c :: split.1, split.2)) ++ [([c], rest)]
    else []

/-- The ways in which a piece can begin a text, in the order in which they are tried, and what they
leave. -/
def Piece.splits : Piece → List Char → List (List Char × List Char)
  | .fixed front, text => if front <+: text then [(front, text.drop front.length)] else []
  | .run isIn, text => splitRun isIn text

/-- A pattern stands for the texts that consist of its pieces. -/
abbrev Pattern := List Piece

namespace Pattern

/-- The parts cut a text into the pieces of a pattern. -/
structure Cuts (pattern : Pattern) (parts : List (List Char)) (text : List Char) : Prop where
  matched : List.Forall₂ Piece.Matches pattern parts
  text_eq : text = parts.flatten

/-- All cuts of a text, in the order in which they are tried. -/
def candidates : Pattern → List Char → List (List (List Char))
  | [], text => if text = [] then [[]] else []
  | piece :: pattern, text =>
    (piece.splits text).flatMap fun split => (candidates pattern split.2).map (split.1 :: ·)

/-- The cut of a text that is found first. -/
def match? (pattern : Pattern) (text : List Char) : Option (List (List Char)) :=
  (candidates pattern text).head?

end Pattern

/-! ## What is tried -/

/-- A run of characters is one of them, with nothing or with a run behind it. -/
theorem run_matches_cons_iff {isIn : Char → Bool} {c : Char} {part : List Char} :
    (Piece.run isIn).Matches (c :: part) ↔
      isIn c = true ∧ (part = [] ∨ (Piece.run isIn).Matches part) := by
  by_cases hpart : part = []
  · simp [Piece.Matches, hpart]
  · simp [Piece.Matches, hpart]

theorem mem_splitRun_iff {isIn : Char → Bool} {text front rest : List Char} :
    (front, rest) ∈ splitRun isIn text ↔
      text = front ++ rest ∧ (Piece.run isIn).Matches front := by
  induction text generalizing front with
  | nil =>
    constructor
    · intro h
      cases h
    · rintro ⟨h, hne, -⟩
      exact absurd (List.append_eq_nil_iff.mp h.symm).1 hne
  | cons c text ih =>
    rw [splitRun]
    split
    · next hc =>
      rw [List.mem_append, List.mem_map, List.mem_singleton]
      constructor
      · rintro (⟨⟨part, rest'⟩, hsplit, heq⟩ | heq)
        · cases heq
          obtain ⟨rfl, hpart⟩ := ih.mp hsplit
          exact ⟨rfl, run_matches_cons_iff.mpr ⟨hc, .inr hpart⟩⟩
        · cases heq
          exact ⟨rfl, run_matches_cons_iff.mpr ⟨hc, .inl rfl⟩⟩
      · rintro ⟨htext, hfront⟩
        cases front with
        | nil => exact absurd rfl hfront.1
        | cons c' part =>
          obtain ⟨rfl, rfl⟩ := List.cons.inj htext
          obtain ⟨-, rfl | hpart⟩ := run_matches_cons_iff.mp hfront
          · exact .inr rfl
          · exact .inl ⟨(part, rest), ih.mpr ⟨rfl, hpart⟩, rfl⟩
    · next hc =>
      constructor
      · intro h
        cases h
      · rintro ⟨htext, hfront⟩
        cases front with
        | nil => exact absurd rfl hfront.1
        | cons c' part =>
          obtain ⟨rfl, -⟩ := List.cons.inj htext
          exact absurd (run_matches_cons_iff.mp hfront).1 hc

theorem Piece.mem_splits_iff {piece : Piece} {text front rest : List Char} :
    (front, rest) ∈ piece.splits text ↔ text = front ++ rest ∧ piece.Matches front := by
  cases piece with
  | fixed fixed =>
    rw [splits, Matches]
    constructor
    · intro h
      split at h
      · next hprefix =>
        obtain ⟨behind, rfl⟩ := hprefix
        obtain ⟨rfl, rfl⟩ := Prod.mk.inj (List.mem_singleton.mp h)
        simp
      · cases h
    · rintro ⟨rfl, rfl⟩
      simp
  | run isIn => exact mem_splitRun_iff

namespace Pattern

/-- A matcher comes to every cut and to nothing else. -/
theorem mem_candidates_iff {pattern : Pattern} {text : List Char} {parts : List (List Char)} :
    parts ∈ pattern.candidates text ↔ pattern.Cuts parts text := by
  induction pattern generalizing text parts with
  | nil =>
    constructor
    · intro h
      rw [candidates] at h
      split at h
      · next htext =>
        obtain rfl := List.mem_singleton.mp h
        exact ⟨.nil, htext⟩
      · cases h
    · rintro ⟨⟨⟩, rfl⟩
      exact List.mem_singleton.mpr rfl
  | cons piece pattern ih =>
    rw [candidates, List.mem_flatMap]
    constructor
    · rintro ⟨⟨front, rest⟩, hsplit, hparts⟩
      obtain ⟨rfl, hfront⟩ := Piece.mem_splits_iff.mp hsplit
      obtain ⟨others, hothers, rfl⟩ := List.mem_map.mp hparts
      obtain ⟨hmatched, hrest⟩ := ih.mp hothers
      exact ⟨.cons hfront hmatched, congrArg (front ++ ·) hrest⟩
    · rintro ⟨hmatched, rfl⟩
      cases hmatched with
      | @cons _ front _ others hfront hothers =>
        exact ⟨(front, others.flatten), Piece.mem_splits_iff.mpr ⟨rfl, hfront⟩,
          List.mem_map_of_mem (ih.mpr ⟨hothers, rfl⟩)⟩

/-- A text that can be cut in one way only is cut so. -/
theorem match?_eq_some {pattern : Pattern} {text : List Char} {parts : List (List Char)}
    (h : pattern.Cuts parts text) (hunique : ∀ other, pattern.Cuts other text → other = parts) :
    pattern.match? text = some parts := by
  have hmem := mem_candidates_iff.mpr h
  rw [match?]
  cases hall : pattern.candidates text with
  | nil =>
    rw [hall] at hmem
    cases hmem
  | cons first others =>
    have hfirst : pattern.Cuts first text :=
      mem_candidates_iff.mp (hall ▸ List.mem_cons_self)
    rw [List.head?_cons, hunique first hfirst]

/-- A text that cannot be cut is not cut. -/
theorem match?_eq_none {pattern : Pattern} {text : List Char}
    (h : ∀ parts, ¬ pattern.Cuts parts text) : pattern.match? text = none := by
  rw [match?, List.head?_eq_none_iff, List.eq_nil_iff_forall_not_mem]
  intro parts hparts
  exact h parts (mem_candidates_iff.mp hparts)

end Pattern

end LevelForge.Text
