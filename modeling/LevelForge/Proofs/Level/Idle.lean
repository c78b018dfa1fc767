import LevelForge.Proofs.Level.Course

/-!
# Segments without width

A segment without width moves neither the frontier nor the units of a level. Only a template can be
one, and only where no gaps are left behind templates. How many of them a level hands out in a row
is bounded by its number of templates, unless the level has no width to offer or leaves the choice
to chance.

* `Blueprint.Itinerary.handed_of_endsIdle`: segments without width at the end of an itinerary are
  its last templates.
* `Play.Reachable.endsIdle_le_count`: a reachable play hands out at most one round of them in a row.
-/

namespace LevelForge

namespace Segment

/-- The last `k` segments have no width. -/
def EndsIdle (segments : List Segment) (k : Nat) : Prop :=
  ∃ before idle, segments = before ++ idle ∧ idle.length = k ∧ ∀ s ∈ idle, s.totalWidth = 0

/-- Every list ends with no segments without width at least. -/
theorem endsIdle_zero (segments : List Segment) : EndsIdle segments 0 :=
  ⟨segments, [], (List.append_nil _).symm, rfl, nofun⟩

/-- One more segment without width is one more at the end. -/
theorem EndsIdle.concat {segments : List Segment} {k : Nat} {s : Segment}
    (h : EndsIdle segments k) (hs : s.totalWidth = 0) : EndsIdle (segments ++ [s]) (k + 1) := by
  obtain ⟨before, idle, rfl, rfl, hidle⟩ := h
  refine ⟨before, idle ++ [s], List.append_assoc _ _ _, by simp, ?_⟩
  intro s' hs'
  rcases List.mem_append.mp hs' with hold | hnew
  · exact hidle s' hold
  · rw [List.mem_singleton.mp hnew]
    exact hs

/-- What stands in front does not change the end of a list. -/
theorem EndsIdle.append_left {segments : List Segment} {k : Nat} (h : EndsIdle segments k)
    (front : List Segment) : EndsIdle (front ++ segments) k := by
  obtain ⟨before, idle, rfl, hlength, hidle⟩ := h
  exact ⟨front ++ before, idle, (List.append_assoc _ _ _).symm, hlength, hidle⟩

/-- The last of several segments without width is the last of all, and the others come before. -/
theorem EndsIdle.of_concat {segments : List Segment} {k : Nat} {s : Segment}
    (h : EndsIdle (segments ++ [s]) (k + 1)) : s.totalWidth = 0 ∧ EndsIdle segments k := by
  obtain ⟨before, idle, heq, hlength, hidle⟩ := h
  rcases List.eq_nil_or_concat idle with rfl | ⟨others, last, rfl⟩
  · cases hlength
  · rw [List.concat_eq_append, ← List.append_assoc] at heq
    obtain ⟨rfl, hlast⟩ := List.append_inj' heq rfl
    obtain rfl := List.singleton_inj.mp hlast
    refine ⟨hidle s (by simp), before, others, rfl, by simpa using hlength, ?_⟩
    exact fun s' hs' => hidle s' (by simp [hs'])

/-- Behind a segment with width no segment without width stands at the end. -/
theorem eq_zero_of_endsIdle_concat {segments : List Segment} {k : Nat} {s : Segment}
    (h : EndsIdle (segments ++ [s]) k) (hs : s.totalWidth ≠ 0) : k = 0 := by
  cases k with
  | zero => rfl
  | succ k => exact absurd h.of_concat.1 hs

/-- A list that ends without width has a segment without width. -/
theorem EndsIdle.exists_mem {segments : List Segment} {k : Nat} (h : EndsIdle segments (k + 1)) :
    ∃ s ∈ segments, s.totalWidth = 0 := by
  obtain ⟨before, idle, rfl, hlength, hidle⟩ := h
  have hpos : 0 < idle.length := by omega
  obtain ⟨s, hs⟩ := List.exists_mem_of_length_pos hpos
  exact ⟨s, List.mem_append_right _ hs, hidle s hs⟩

theorem totalWidth_spawnFloor (aliases : Table String) :
    (spawnFloor aliases).totalWidth = World.spawnFloorWidth := rfl

theorem totalWidth_arena (boss : String) (aliases : Table String) :
    (arena boss aliases).totalWidth = World.arenaWidth := rfl

theorem totalWidth_endWall (aliases : Table String) : (endWall aliases).totalWidth = 1 := rfl

/-- The spawn floor has width. -/
theorem spawnFloor_ne_idle (aliases : Table String) : (spawnFloor aliases).totalWidth ≠ 0 := by
  rw [totalWidth_spawnFloor]
  decide

/-- Every arena has width. -/
theorem arena_ne_idle (boss : String) (aliases : Table String) :
    (arena boss aliases).totalWidth ≠ 0 := by
  rw [totalWidth_arena]
  decide

/-- The end wall has width. -/
theorem endWall_ne_idle (aliases : Table String) : (endWall aliases).totalWidth ≠ 0 := by
  rw [totalWidth_endWall]
  exact Nat.one_ne_zero

end Segment

open Segment (EndsIdle)

namespace Blueprint

/-- A blueprint that has width to offer behind its spawn floor: a template with columns, or gaps
behind templates. -/
def OffersWidth (b : Blueprint) : Prop :=
  (∃ t ∈ b.templates, 0 < t.width) ∨ (b.has .doGaps = true ∧ 0 < b.count)

/-- An endless level that chooses among its templates at random, some of them without width and no
gaps behind them: any number of these may be chosen in a row. -/
structure IsGamble (b : Blueprint) : Prop where
  endless : b.Endless
  shuffle : b.has .shuffle = true
  gapless : b.has .doGaps = false
  idle : ∃ t ∈ b.templates, t.width = 0

variable {b : Blueprint} {history : List Segment} {kind : SegmentKind} {handed k : Nat}

namespace Itinerary

/-- Segments without width at the end of an itinerary are its last templates. In order, their places
in the round are those before the next one, counted backwards. -/
theorem handed_of_endsIdle (h : Itinerary b history kind handed) (hidle : EndsIdle history k) :
    k ≤ handed ∧ (b.has .shuffle = false → ∀ i < k, ∃ t,
      b.templates[(handed - 1 - i) % b.count]? = some t ∧ t.width = 0) := by
  induction h generalizing k with
  | floor =>
    have hidle' : EndsIdle ([] ++ [.spawnFloor b.aliases]) k := hidle
    obtain rfl := Segment.eq_zero_of_endsIdle_concat hidle' (Segment.spawnFloor_ne_idle _)
    exact ⟨le_rfl, fun _ _ hi => absurd hi (Nat.not_lt_zero _)⟩
  | @template history kind handed s _ _ _ hregular hindex ih =>
    cases k with
    | zero => exact ⟨Nat.zero_le _, fun _ _ hi => absurd hi (Nat.not_lt_zero _)⟩
    | succ k =>
      obtain ⟨hs, hrest⟩ := hidle.of_concat
      obtain ⟨hle, hplaces⟩ := ih hrest
      refine ⟨Nat.succ_le_succ hle, fun hordered i hi => ?_⟩
      cases i with
      | zero =>
        -- the last template is the one that was due
        obtain ⟨index, hnumber, htemplate⟩ := hregular.known
        rw [hindex hordered, Option.some_inj, Int.natCast_inj] at hnumber
        rw [Nat.add_sub_cancel, Nat.sub_zero, hnumber]
        exact ⟨s.template, htemplate, (Nat.add_eq_zero_iff.mp hs).1⟩
      | succ i =>
        obtain ⟨t, ht, hwidth⟩ := hplaces hordered i (Nat.lt_of_succ_lt_succ hi)
        have hplace : handed + 1 - 1 - (i + 1) = handed - 1 - i := by omega
        rw [hplace]
        exact ⟨t, ht, hwidth⟩
  | arena boss =>
    obtain rfl := Segment.eq_zero_of_endsIdle_concat hidle (Segment.arena_ne_idle boss _)
    exact ⟨Nat.zero_le _, fun _ _ hi => absurd hi (Nat.not_lt_zero _)⟩
  | wall =>
    obtain rfl := Segment.eq_zero_of_endsIdle_concat hidle (Segment.endWall_ne_idle _)
    exact ⟨Nat.zero_le _, fun _ _ hi => absurd hi (Nat.not_lt_zero _)⟩

/-- A whole round of segments without width in order is one of all templates. -/
theorem width_eq_zero_of_endsIdle (h : Itinerary b history kind handed)
    (hordered : b.has .shuffle = false) (hidle : EndsIdle history k) (hround : b.count ≤ k) :
    ∀ t ∈ b.templates, t.width = 0 := by
  intro t ht
  obtain ⟨hle, hplaces⟩ := h.handed_of_endsIdle hidle
  obtain ⟨place, hplace, rfl⟩ := Array.getElem_of_mem ht
  have hplace : place < b.count := hplace
  -- the template was handed out last where its place came round last
  have hback : (handed - 1 - place) % b.count < b.count := Nat.mod_lt _ (Nat.zero_lt_of_lt hplace)
  obtain ⟨t, ht, hwidth⟩ := hplaces hordered _ (hback.trans_le hround)
  have hlast : (handed - 1 - (handed - 1 - place) % b.count) % b.count = place := by
    have hsplit := Nat.mod_add_div (handed - 1 - place) b.count
    have hrest : handed - 1 - (handed - 1 - place) % b.count =
        place + b.count * ((handed - 1 - place) / b.count) := by omega
    rw [hrest, Nat.add_mul_mod_self_left, Nat.mod_eq_of_lt hplace]
  rw [hlast, Array.getElem?_eq_getElem hplace, Option.some_inj] at ht
  exact ht ▸ hwidth

end Itinerary

end Blueprint

namespace Level

/-- Only a template is handed out without width, where no gaps are left: one of the templates that
has no columns. Behind it the next place of the round is due. -/
theorem HandsOut.of_totalWidth_eq_zero {l l' : Level} {segment : Segment}
    (h : l.HandsOut (some segment) l') (hidle : segment.totalWidth = 0) :
    (∃ place, l.due? = some place ∧ l'.state.cursor = place + 1) ∧
      l.plan.blueprint.has .doGaps = false ∧
      ∃ t ∈ l.plan.blueprint.templates, t.width = 0 := by
  cases h with
  | floor => exact absurd hidle (Segment.spawnFloor_ne_idle _)
  | wall => exact absurd hidle (Segment.endWall_ne_idle _)
  | arena => exact absurd hidle (Segment.arena_ne_idle _ _)
  | @template place index gap template key _ hdue _ hindex _ hgap =>
    obtain ⟨hwidth, rfl⟩ := Nat.add_eq_zero_iff.mp hidle
    refine ⟨⟨place, hdue, rfl⟩, ?_, template, Array.mem_of_getElem? hindex, hwidth⟩
    -- where gaps are left, each has one or two tiles
    rw [← Bool.not_eq_true]
    intro hgaps
    rw [IsGap, has, if_pos hgaps] at hgap
    omega

/-- Something is left behind a template. -/
theorem hasNext_of_cursor_eq {l l' : Level} {place : Nat} (hplan : l'.plan = l.plan)
    (hdue : l.due? = some place) (hcursor : l'.state.cursor = place + 1) : l'.hasNext = true := by
  have hle : l'.state.cursor ≤ l'.count := by
    rw [hcursor, count, hplan]
    exact lt_count_of_due hdue
  rw [hasNext, Bool.or_eq_true, decide_eq_true_eq]
  exact .inr hle

end Level

namespace Play

variable {plan : LevelPlan} {history : List Segment} {p : Play}

/-- A play hands out segments without width only where no gaps are left and a template has no
columns. -/
theorem Reachable.of_totalWidth_eq_zero (hadmissible : plan.blueprint.bosses.Admissible)
    (hreach : Reachable plan history p) {s : Segment} (hs : s ∈ history)
    (hidle : s.totalWidth = 0) :
    plan.blueprint.has .doGaps = false ∧ ∃ t ∈ plan.blueprint.templates, t.width = 0 := by
  have hall := (hreach.induction (P := fun history _ => ∀ s ∈ history, s.totalWidth = 0 →
    plan.blueprint.has .doGaps = false ∧ ∃ t ∈ plan.blueprint.templates, t.width = 0)
    hadmissible nofun ?_ fun _ h _ => h).2
  · exact hall s hs hidle
  · rintro history l answer l' rfl h hstep s hs hidle
    rcases List.mem_append.mp hs with hold | hnew
    · exact h s hold hidle
    · rw [Option.mem_toList] at hnew
      cases hnew
      exact (hstep.of_totalWidth_eq_zero hidle).2

/-- In a row a play hands out at most as many segments without width as there are templates, unless
its level is endless and has no width to offer or leaves it to chance. -/
theorem Reachable.endsIdle_le_count (hadmissible : plan.blueprint.bosses.Admissible)
    (hreach : Reachable plan history p)
    (hmoves : plan.blueprint.Endless → plan.blueprint.OffersWidth ∧ ¬ plan.blueprint.IsGamble)
    {k : Nat} (hidle : EndsIdle history k) : k ≤ plan.blueprint.count := by
  obtain ⟨rfl, hcourse⟩ := Level.onCourse_of_reachable hadmissible hreach
  rcases hcourse with ⟨rfl, -⟩ | ⟨kind, handed, hfollows⟩
  · obtain ⟨before, idle, heq, rfl, -⟩ := hidle
    rw [(List.append_eq_nil_iff.mp heq.symm).2]
    exact Nat.zero_le _
  · by_cases hendless : p.level.plan.blueprint.Endless
    · -- otherwise a round without width would be one of all templates, which are not shuffled
      obtain ⟨hoffers, hgamble⟩ := hmoves hendless
      by_contra hlt
      have hround := (Nat.lt_of_not_le hlt).le
      obtain ⟨j, rfl⟩ := Nat.exists_eq_succ_of_ne_zero (Nat.ne_zero_of_lt (Nat.lt_of_not_le hlt))
      obtain ⟨s, hs, hwidth⟩ := hidle.exists_mem
      obtain ⟨hgapless, hsome⟩ := hreach.of_totalWidth_eq_zero hadmissible hs hwidth
      have hordered : p.level.plan.blueprint.has .shuffle = false := by
        rw [← Bool.not_eq_true]
        exact fun hshuffle => hgamble ⟨hendless, hshuffle, hgapless, hsome⟩
      have hall := hfollows.itinerary.width_eq_zero_of_endsIdle hordered hidle hround
      rcases hoffers with ⟨t, ht, hpos⟩ | ⟨hgaps, -⟩
      · exact hpos.ne' (hall t ht)
      · rw [hgapless] at hgaps
        cases hgaps
    · exact (hfollows.itinerary.handed_of_endsIdle hidle).1.trans
        (hfollows.itinerary.handed_le hendless)

end Play

end LevelForge
