import LevelForge.Blueprint
import Mathlib.Data.List.Chain

/-!
# Itineraries

The sequences of segments that a blueprint allows, said without the state of a level: the spawn
floor, then templates with an arena here and there between two of them, and the end wall once a
finite level has no room for another template. `Itinerary` builds such a sequence one segment at a
time and keeps the kind of the last segment and the number of templates.

* `Itinerary.isCourse`: without its arenas an itinerary is the floor, the templates in their order
  and the wall, and every arena stands between two templates.
* `Itinerary.length_le`: a finished itinerary of `n ≥ 1` templates has at most `2 * n + 1` segments.
-/

namespace LevelForge

/-- How far segments reach together. -/
def Segment.span : List Segment → Nat
  | [] => 0
  | s :: rest => s.totalWidth + span rest

/-- The widths of two lists of segments add up. -/
@[simp]
theorem Segment.span_append (xs ys : List Segment) : span (xs ++ ys) = span xs + span ys := by
  induction xs with
  | nil => exact (Nat.zero_add _).symm
  | cons s rest ih => rw [List.cons_append, span, span, ih, Nat.add_assoc]

@[simp]
theorem Segment.span_singleton (s : Segment) : span [s] = s.totalWidth := by
  simp [span]

/-- No segment is wider than all of them. -/
theorem Segment.totalWidth_le_span {segments : List Segment} {s : Segment} (hs : s ∈ segments) :
    s.totalWidth ≤ span segments := by
  obtain ⟨before, after, rfl⟩ := List.append_of_mem hs
  rw [span_append, span]
  omega

/-- All segments but the last are no wider than all of them. -/
theorem Segment.span_dropLast_le (segments : List Segment) :
    span segments.dropLast ≤ span segments := by
  rcases List.eq_nil_or_concat segments with rfl | ⟨before, last, rfl⟩
  · exact le_rfl
  · rw [List.concat_eq_append, List.dropLast_concat, span_append]
    exact Nat.le_add_right _ _

/-- The segments that are no arenas. -/
def Segment.withoutArenas (segments : List Segment) : List Segment :=
  segments.filter (·.kind ≠ .boss)

/-- Leaving out arenas goes part by part. -/
@[simp]
theorem Segment.withoutArenas_append (xs ys : List Segment) :
    withoutArenas (xs ++ ys) = withoutArenas xs ++ withoutArenas ys :=
  List.filter_append xs ys

/-- Two neighbours, of which neither is an arena next to anything but a template. -/
def Segment.MayFollow (s s' : Segment) : Prop :=
  (s'.kind = .boss → s.kind = .regular) ∧ (s.kind = .boss → s'.kind = .regular)

namespace Blueprint

/-- A level that starts over when its templates run out. -/
def Endless (b : Blueprint) : Prop := b.has .infinite = true ∧ 0 < b.count

/-- There is another template behind `handed` of them. -/
def HasRoom (b : Blueprint) (handed : Nat) : Prop := b.Endless ∨ handed < b.count

/-- A segment over one of the templates, under the number of that template. -/
structure IsRegular (b : Blueprint) (s : Segment) : Prop where
  kind : s.kind = .regular
  known : ∃ index : Nat, s.index = some (index : Int) ∧ b.templates[index]? = some s.template

/-- The segments of a level: its floor, templates in order unless they are shuffled, and an ending,
with arenas that stand between templates only. -/
structure IsCourse (b : Blueprint) (segments templates ending : List Segment) : Prop where
  first : segments.head? = some (.spawnFloor b.aliases)
  mainline : Segment.withoutArenas segments = .spawnFloor b.aliases :: templates ++ ending
  regular : ∀ s ∈ templates, b.IsRegular s
  inOrder : b.has .shuffle = false → ∀ k s, templates[k]? = some s →
    s.index = some ((k % b.count : Nat) : Int)
  apart : segments.IsChain Segment.MayFollow

/-- The sequences of segments that a blueprint allows, with the kind of the last segment and the
number of templates. -/
inductive Itinerary (b : Blueprint) : List Segment → SegmentKind → Nat → Prop
  | floor : Itinerary b [.spawnFloor b.aliases] .initial 0
  | template {history : List Segment} {kind : SegmentKind} {handed : Nat} {s : Segment} :
      Itinerary b history kind handed → kind ≠ .terminal → b.HasRoom handed →
      b.IsRegular s →
      (b.has .shuffle = false → s.index = some ((handed % b.count : Nat) : Int)) →
      Itinerary b (history ++ [s]) .regular (handed + 1)
  -- the template that would be next stays next, so there must be room for it
  | arena {history : List Segment} {handed : Nat} (boss : String) :
      Itinerary b history .regular handed → b.HasRoom handed →
      Itinerary b (history ++ [.arena boss b.aliases]) .boss handed
  | wall {history : List Segment} {kind : SegmentKind} {handed : Nat} :
      Itinerary b history kind handed → kind ≠ .terminal → kind ≠ .boss → ¬ b.HasRoom handed →
      Itinerary b (history ++ [.endWall b.aliases]) .terminal handed

namespace Itinerary

variable {b : Blueprint} {history : List Segment} {kind : SegmentKind} {handed : Nat}

/-- The last segment of a history is of the kind that the itinerary names. -/
theorem kind_eq_of_mem_getLast? (h : Itinerary b history kind handed) {s : Segment}
    (hs : s ∈ history.getLast?) : s.kind = kind := by
  cases h with
  | floor => cases hs; rfl
  | template _ _ _ hregular => rw [List.getLast?_concat] at hs; cases hs; exact hregular.kind
  | arena => rw [List.getLast?_concat] at hs; cases hs; rfl
  | wall => rw [List.getLast?_concat] at hs; cases hs; rfl

/-- Whatever an itinerary goes on with must be allowed to follow its last segment. -/
theorem isChain_concat (h : Itinerary b history kind handed)
    (hchain : history.IsChain Segment.MayFollow) {s : Segment}
    (hafter : s.kind = .boss → kind = .regular) (hbefore : kind = .boss → s.kind = .regular) :
    (history ++ [s]).IsChain Segment.MayFollow := by
  refine hchain.append (.singleton s) ?_
  intro last hlast next hnext
  cases hnext
  rw [Segment.MayFollow, h.kind_eq_of_mem_getLast? hlast]
  exact ⟨hafter, hbefore⟩

/-- Behind an arena there is room for more templates. -/
theorem hasRoom_of_boss (h : Itinerary b history .boss handed) : b.HasRoom handed := by
  cases h with
  | arena _ _ hroom => exact hroom

/-- A finite itinerary has at most as many templates as the blueprint. -/
theorem handed_le (h : Itinerary b history kind handed) (hfinite : ¬ b.Endless) :
    handed ≤ b.count := by
  induction h with
  | floor => exact Nat.zero_le _
  | template _ _ hroom =>
    rcases hroom with hendless | hlt
    · exact absurd hendless hfinite
    · exact hlt
  | arena _ _ _ ih => exact ih
  | wall _ _ _ _ ih => exact ih

/-- The end wall is behind all templates of a finite level. -/
theorem handed_eq_of_terminal (h : Itinerary b history .terminal handed) :
    ¬ b.Endless ∧ handed = b.count := by
  have hle := h.handed_le
  cases h with
  | wall _ _ _ hroom =>
    rw [HasRoom, not_or, Nat.not_lt] at hroom
    exact ⟨hroom.1, le_antisymm (hle hroom.1) hroom.2⟩

/-- Without its arenas an itinerary is the floor, the templates in order and at most a wall, and
every arena stands between two templates. -/
theorem isCourse (h : Itinerary b history kind handed) :
    ∃ templates, templates.length = handed ∧
      b.IsCourse history templates (if kind = .terminal then [.endWall b.aliases] else []) := by
  induction h with
  | floor => exact ⟨[], rfl, rfl, rfl, by simp, by simp, .singleton _⟩
  | @template history kind handed s h hkind _ hregular hindex ih =>
    obtain ⟨templates, hlength, hcourse⟩ := ih
    have hmainline := hcourse.mainline
    simp only [hkind, if_false, List.append_nil] at hmainline
    -- the template becomes the last of the templates, and its number is how many came before
    refine ⟨templates ++ [s], by simp [hlength], ⟨?_, ?_, ?_, ?_, ?_⟩⟩
    · rw [List.head?_append, hcourse.first]
      rfl
    · rw [Segment.withoutArenas_append, hmainline]
      simp [Segment.withoutArenas, hregular.kind]
    · intro s' hs'
      rcases List.mem_append.mp hs' with hold | hnew
      · exact hcourse.regular s' hold
      · rw [List.mem_singleton.mp hnew]
        exact hregular
    · intro hordered k s' hs'
      rw [List.getElem?_append] at hs'
      split at hs'
      · exact hcourse.inOrder hordered k s' hs'
      · next hk =>
        rw [List.getElem?_singleton] at hs'
        split at hs'
        · cases hs'
          obtain rfl : k = handed := by omega
          exact hindex hordered
        · cases hs'
    · refine h.isChain_concat hcourse.apart ?_ fun _ => hregular.kind
      intro hboss
      rw [hregular.kind] at hboss
      cases hboss
  | @arena history handed boss h _ ih =>
    obtain ⟨templates, hlength, hcourse⟩ := ih
    refine ⟨templates, hlength, ⟨?_, ?_, hcourse.regular, hcourse.inOrder, ?_⟩⟩
    · rw [List.head?_append, hcourse.first]
      rfl
    · rw [Segment.withoutArenas_append, hcourse.mainline]
      simp [Segment.withoutArenas, Segment.arena]
    · exact h.isChain_concat hcourse.apart (fun _ => rfl) nofun
  | @wall history kind handed h hkind hboss _ ih =>
    obtain ⟨templates, hlength, hcourse⟩ := ih
    have hmainline := hcourse.mainline
    simp only [hkind, if_false, List.append_nil] at hmainline
    refine ⟨templates, hlength, ⟨?_, ?_, hcourse.regular, hcourse.inOrder, ?_⟩⟩
    · rw [List.head?_append, hcourse.first]
      rfl
    · rw [Segment.withoutArenas_append, hmainline]
      simp [Segment.withoutArenas, Segment.endWall]
    · exact h.isChain_concat hcourse.apart nofun fun hlast => absurd hlast hboss

/-- Behind a block a template has been handed out. -/
theorem pos_of_regular (h : Itinerary b history .regular handed) : 0 < handed := by
  cases h with
  | template => exact Nat.succ_pos _

/-- There are at most as many arenas as templates, and fewer unless an arena comes last. -/
theorem countP_boss_le (h : Itinerary b history kind handed) :
    history.countP (·.kind = .boss) ≤ handed ∧
      (kind ≠ .boss → 0 < handed → history.countP (·.kind = .boss) < handed) := by
  induction h with
  | floor => exact ⟨le_rfl, fun _ hpos => absurd hpos (Nat.lt_irrefl 0)⟩
  | template _ _ _ hregular _ ih =>
    obtain ⟨hle, -⟩ := ih
    simp only [List.countP_append, List.countP_singleton, hregular.kind]
    refine ⟨?_, fun _ _ => ?_⟩ <;> simp <;> omega
  | arena boss h _ ih =>
    -- the arena follows a template, so it is one more than fewer
    have := ih.2 (by decide) h.pos_of_regular
    simp only [List.countP_append, List.countP_singleton, Segment.arena]
    exact ⟨by simpa using Nat.succ_le_of_lt this, fun hkind => absurd rfl hkind⟩
  | wall _ _ hboss _ ih =>
    obtain ⟨hle, hlt⟩ := ih
    simp only [List.countP_append, List.countP_singleton, Segment.endWall]
    exact ⟨by simpa using hle, fun _ hpos => by simpa using hlt hboss hpos⟩

/-- The length of an itinerary: the floor, its templates, its arenas and at most a wall. -/
theorem length_eq (h : Itinerary b history kind handed) :
    history.length = 1 + handed + history.countP (·.kind = .boss) +
      if kind = .terminal then 1 else 0 := by
  obtain ⟨templates, hlength, hcourse⟩ := h.isCourse
  have hrest := congrArg List.length hcourse.mainline
  have hsplit := List.length_eq_countP_add_countP (·.kind = .boss) (l := history)
  simp only [Segment.withoutArenas, ← List.countP_eq_length_filter] at hrest
  simp only [decide_eq_true_eq] at hsplit
  rw [hsplit, hrest]
  split <;> simp [hlength] <;> omega

/-- A finite itinerary of at least one template has an arena for each template but the last at
most, and besides only the floor and the wall. -/
theorem length_le (h : Itinerary b history kind handed) (hfinite : ¬ b.Endless)
    (hpos : 0 < b.count) : history.length ≤ 2 * b.count + 1 := by
  have hlength := h.length_eq
  have hle := h.handed_le hfinite
  obtain ⟨hcount, hlt⟩ := h.countP_boss_le
  -- the wall is one segment more, but where it stands no arena came last
  by_cases hboss : kind = .boss
  · subst hboss
    simp only [reduceCtorEq, if_false] at hlength
    omega
  · have := hlt hboss
    split at hlength <;> omega

/-- What has been handed out has width, that of the spawn floor at least. -/
theorem span_pos (h : Itinerary b history kind handed) : 0 < Segment.span history := by
  induction h with
  | floor => exact Nat.succ_pos _
  | template _ _ _ _ _ ih => simp only [Segment.span_append]; omega
  | arena _ _ _ ih => simp only [Segment.span_append]; omega
  | wall _ _ _ _ ih => simp only [Segment.span_append]; omega

end Itinerary

end Blueprint

end LevelForge
