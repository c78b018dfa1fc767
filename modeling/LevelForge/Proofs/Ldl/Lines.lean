import Mathlib.Data.List.DropRight
import Mathlib.Data.List.Induction
import LevelForge.Ldl.Token

/-!
# Lines and columns

The place behind the front of a text counts the line feeds of the front, and the characters behind
the last of them. Places grow as a text is read, and what stands at a place is found in the lines of
the text.

* `Position.advance_eq_behind`: going forward from the start of a text counts lines and columns.
* `Position.precedes_advance`: going forward leads to later places.
* `exists_line`: what stands at a place of a text.
-/

namespace LevelForge.Ldl

namespace Position

/-- The place behind the front of a text. -/
def behind (front : List Char) : Position where
  line := front.count '\n' + 1
  column := (front.rtakeWhile (· ≠ '\n')).length + 1

/-- The order in which places are read: by lines, and by columns in a line. -/
def Precedes (p q : Position) : Prop := p.line < q.line ∨ p.line = q.line ∧ p.column < q.column

/-- Going through a text from its start leads to the place behind it. -/
theorem advance_eq_behind (front : List Char) : advance {} front = behind front := by
  -- the last character decides whether the column or the line grows
  induction front using List.reverseRecOn with
  | nil => rfl
  | append_singleton front c ih =>
    rw [advance_append, ih, advance_cons, advance_nil, after, behind, behind]
    by_cases hc : c = '\n'
    · subst hc
      rw [if_pos rfl, List.rtakeWhile_concat_neg _ _ _ (by simp)]
      simp
    · rw [if_neg hc, List.rtakeWhile_concat_pos _ _ _ (by simpa using hc)]
      simp [hc]

/-- Going on from behind a text leads to the place behind what was added. -/
theorem advance_behind (front chars : List Char) :
    (behind front).advance chars = behind (front ++ chars) := by
  rw [← advance_eq_behind, ← advance_append, advance_eq_behind]

/-- What is before a place is before what comes behind this place. -/
theorem Precedes.trans {p q r : Position} (hpq : p.Precedes q) (hqr : q.Precedes r) :
    p.Precedes r := by
  unfold Precedes at *
  omega

/-- A character takes a step forward. -/
theorem precedes_after (p : Position) (c : Char) : p.Precedes (p.after c) := by
  unfold Precedes after
  split
  · exact .inl (Nat.lt_succ_self _)
  · exact .inr ⟨rfl, Nat.lt_succ_self _⟩

/-- A run of characters takes a step forward. -/
theorem precedes_advance (p : Position) {chars : List Char} (h : chars ≠ []) :
    p.Precedes (p.advance chars) := by
  induction chars generalizing p with
  | nil => exact absurd rfl h
  | cons c rest ih =>
    cases rest with
    | nil => exact p.precedes_after c
    | cons c' rest => exact (p.precedes_after c).trans (ih (p.after c) (List.cons_ne_nil _ _))

/-- A shorter front of a text ends earlier. -/
theorem behind_precedes {front front' text : List Char} (h : front <+: text) (h' : front' <+: text)
    (hlt : front.length < front'.length) : (behind front).Precedes (behind front') := by
  obtain ⟨between, rfl⟩ := List.prefix_of_prefix_length_le h h' hlt.le
  rw [← advance_behind]
  refine precedes_advance _ ?_
  rintro rfl
  simp at hlt

end Position

/-! ## Lines -/

/-- The lines of a text from the one on in which its front ends. -/
theorem drop_splitOn_append (front rest : List Char) :
    ((front ++ rest).splitOn '\n').drop (front.count '\n') =
      (rest.splitOn '\n').modifyHead (front.rtakeWhile (· ≠ '\n') ++ ·) := by
  induction front using List.reverseRecOn generalizing rest with
  | nil => exact (congrFun List.modifyHead_id _).symm
  | append_singleton front c ih =>
    rw [List.append_assoc, List.singleton_append, List.count_append]
    by_cases hc : c = '\n'
    · subst hc
      rw [List.rtakeWhile_concat_neg _ _ _ (by simp), List.count_singleton_self, ← List.drop_drop,
        ih, List.splitOn_cons_eq_if_modifyHead, if_pos (beq_self_eq_true _), List.modifyHead_cons,
        List.drop_one, List.tail_cons]
      exact (congrFun List.modifyHead_id _).symm
    · rw [List.rtakeWhile_concat_pos _ _ _ (by simpa using hc), List.count_singleton,
        if_neg (by simpa using hc), Nat.add_zero, ih, List.splitOn_cons_eq_if_modifyHead,
        if_neg (by simpa using hc), List.modifyHead_modifyHead]
      simp only [Function.comp_def, List.append_assoc, List.singleton_append]

/-- What stands between a front of a text and the next line feed. -/
theorem getElem?_splitOn_append (front rest : List Char) :
    ((front ++ rest).splitOn '\n')[front.count '\n']? =
      some (front.rtakeWhile (· ≠ '\n') ++ (rest.splitOn '\n').headD []) := by
  have h := congrArg List.head? (drop_splitOn_append front rest)
  rw [List.head?_drop] at h
  rw [h]
  cases hrest : rest.splitOn '\n' with
  | nil => exact absurd hrest (List.splitOn_ne_nil _ _)
  | cons line lines => rfl

/-- A part of a line is found at the place behind the front before it. -/
theorem exists_line (front rest : List Char) {value : List Char} (hvalue : '\n' ∉ value) :
    ∃ line, ((front ++ value ++ rest).splitOn '\n')[(Position.behind front).line - 1]? = some line ∧
      value <+: line.drop ((Position.behind front).column - 1) := by
  refine ⟨_, List.append_assoc front value rest ▸ getElem?_splitOn_append front (value ++ rest), ?_⟩
  -- the value is not cut
  have hself : value.rtakeWhile (· ≠ '\n') = value :=
    List.rtakeWhile_eq_self_iff.mpr fun c hc => decide_eq_true fun heq => hvalue (heq ▸ hc)
  have hwhole := getElem?_splitOn_append value rest
  rw [List.count_eq_zero.mpr hvalue, hself, ← List.head?_eq_getElem?] at hwhole
  rw [List.headD_eq_head?_getD, hwhole]
  show value <+: List.drop (front.rtakeWhile (· ≠ '\n')).length _
  rw [List.drop_left]
  exact List.prefix_append _ _

/-- The place behind a whole text is behind its last line. -/
theorem behind_eq_end (text : List Char) :
    Position.behind text =
      ⟨(text.splitOn '\n').length, ((text.splitOn '\n').getLastD []).length + 1⟩ := by
  have h := drop_splitOn_append text []
  rw [List.append_nil, List.splitOn_nil, List.modifyHead_cons, List.append_nil] at h
  -- the lines are those before the last one, and the last one
  have hlines := List.take_append_drop (text.count '\n') (text.splitOn '\n')
  rw [h] at hlines
  have hlength : (text.splitOn '\n').length = text.count '\n' + 1 := by
    have := congrArg List.length h
    rw [List.length_drop, List.length_singleton] at this
    omega
  rw [Position.behind, hlength, ← hlines, List.getLastD_concat]

end LevelForge.Ldl
