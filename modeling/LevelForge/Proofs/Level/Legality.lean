import LevelForge.Proofs.Filled
import LevelForge.Proofs.Level.Course

/-!
# Legal levels

A level always answers, and whatever was called before, its numbers stay in bounds: the mark lies
between the spawn floor and the units, the frontier is never ahead of them, and the index leaves
the templates only with the end wall. What is handed out is a segment that the level may have.

* `Blueprint.MayHandOut`: the segments that a level may hand out.
* `Level.inBounds_of_handsOut`: one step of a level keeps its numbers in bounds.
* `Play.legal_of_reachable`: answers and numbers of every reachable play.
-/

namespace LevelForge

/-- A segment that a level over a blueprint may hand out: only templates have gaps, of one or two
tiles where gaps are switched on, and their indices are those of the blueprint. -/
structure Blueprint.MayHandOut (b : Blueprint) (s : Segment) : Prop where
  gap_regular : s.kind = .regular → b.has .doGaps = true → s.gap = 1 ∨ s.gap = 2
  gap_off : b.has .doGaps = false → s.gap = 0
  gap_other : s.kind ≠ .regular → s.gap = 0
  index_regular : s.kind = .regular → ∃ index : Nat, s.index = some (index : Int) ∧
    index < b.count ∧ b.templates[index]? = some s.template

namespace Level

/-- The numbers of a level: all of them zero before the floor is handed out, and in order behind
it. -/
structure InBounds (history : List Segment) (l : Level) : Prop where
  fresh : history = [] → l.state.unitsBuilt = 0 ∧ l.state.lastUnitsBuilt = 0 ∧
    l.state.frontier = 0 ∧ l.state.cursor = 0
  floor_le_mark : history ≠ [] → World.spawnFloorWidth ≤ l.state.lastUnitsBuilt
  mark_le : l.state.lastUnitsBuilt ≤ l.state.unitsBuilt
  frontier_le : l.state.frontier ≤ l.state.unitsBuilt
  cursor_le : l.state.cursor ≤ l.count + 1
  -- the cursor is behind the templates only behind the wall
  cursor_eq : l.state.cursor = l.count + 1 → ∃ s ∈ history, s.kind = .terminal

section Steps

variable {l l' : Level} {history : List Segment} {answer : Option Segment} {segment : Segment}

/-- What a level hands out is what it may hand out. -/
theorem mayHandOut_of_handsOut (h : l.HandsOut (some segment) l') :
    l.plan.blueprint.MayHandOut segment := by
  cases h with
  | floor => exact ⟨nofun, fun _ => rfl, fun _ => rfl, nofun⟩
  | wall => exact ⟨nofun, fun _ => rfl, fun _ => rfl, nofun⟩
  | arena => exact ⟨nofun, fun _ => rfl, fun _ => rfl, nofun⟩
  | @template place index gap template key _ _ _ hindex _ hgap =>
    unfold IsGap has at hgap
    refine ⟨fun _ hon => ?_, fun hoff => ?_, fun hkind => absurd rfl hkind, fun _ => ?_⟩
    · rwa [if_pos hon] at hgap
    · rwa [if_neg (by rw [hoff]; nofun)] at hgap
    · obtain ⟨hlt, -⟩ := Array.getElem?_eq_some_iff.mp hindex
      exact ⟨index, rfl, hlt, hindex⟩

/-- A level is in bounds at its start. -/
theorem inBounds_start (plan : LevelPlan) : InBounds [] (start plan) where
  fresh _ := ⟨rfl, rfl, rfl, rfl⟩
  floor_le_mark hne := absurd rfl hne
  mark_le := le_rfl
  frontier_le := le_rfl
  cursor_le := Nat.zero_le _
  cursor_eq := nofun

/-- Behind the floor the history is not empty, and without units it is. -/
theorem InBounds.history_eq_nil_iff (h : InBounds history l) :
    history = [] ↔ l.state.unitsBuilt = 0 := by
  constructor
  · exact fun hnil => (h.fresh hnil).1
  · intro hunits
    by_contra hne
    have hfloor := h.floor_le_mark hne
    have hmark := h.mark_le
    rw [World.spawnFloorWidth] at hfloor
    omega

/-- A level is in bounds behind its spawn floor. -/
theorem inBounds_floor (h : InBounds [] l) : InBounds [l.handOutFloor.1] l.handOutFloor.2 := by
  obtain ⟨-, -, hfrontier, hcursor⟩ := h.fresh rfl
  refine ⟨nofun, fun _ => le_rfl, le_rfl, ?_, ?_, fun hend => ?_⟩
  · show l.state.frontier ≤ _
    rw [hfrontier]
    exact Nat.zero_le _
  · show l.state.cursor ≤ _
    rw [hcursor]
    exact Nat.zero_le _
  · -- behind the floor the cursor has not moved
    change l.state.cursor = l.count + 1 at hend
    omega

/-- One step of a level keeps its numbers in bounds. -/
theorem inBounds_of_handsOut (h : InBounds history l) (hstep : l.HandsOut answer l') :
    InBounds (history ++ answer.toList) l' := by
  cases hstep with
  | floor hfresh =>
    obtain rfl := h.history_eq_nil_iff.mpr hfresh
    exact inBounds_floor h
  | exhausted =>
    rw [Option.toList_none, List.append_nil]
    exact h
  | wall hunits =>
    have hne := h.history_eq_nil_iff.not.mpr hunits
    refine ⟨fun hnil => ?_, fun _ => h.floor_le_mark hne, ?_, ?_, le_rfl, fun _ => ?_⟩
    · exact absurd (List.append_eq_nil_iff.mp hnil).1 hne
    · exact h.mark_le.trans (Nat.le_add_right _ _)
    · exact h.frontier_le.trans (Nat.le_add_right _ _)
    · exact ⟨_, List.mem_append_right _ (List.mem_singleton_self _), rfl⟩
  | arena hunits =>
    have hne := h.history_eq_nil_iff.not.mpr hunits
    refine ⟨fun hnil => ?_, fun _ => ?_, le_rfl, ?_, h.cursor_le, fun hend => ?_⟩
    · exact absurd (List.append_eq_nil_iff.mp hnil).1 hne
    · exact ((h.floor_le_mark hne).trans h.mark_le).trans (Nat.le_add_right _ _)
    · exact h.frontier_le.trans (Nat.le_add_right _ _)
    · obtain ⟨s, hs, hkind⟩ := h.cursor_eq hend
      exact ⟨s, List.mem_append_left _ hs, hkind⟩
  | @template place index gap template key hunits hdue =>
    have hne := h.history_eq_nil_iff.not.mpr hunits
    have hplace := lt_count_of_due hdue
    refine ⟨fun hnil => ?_, fun _ => ?_, ?_, ?_, ?_, fun hend => ?_⟩
    · exact absurd (List.append_eq_nil_iff.mp hnil).1 hne
    · exact (h.floor_le_mark hne).trans h.mark_le
    · exact Nat.le_add_right _ _
    · exact h.frontier_le.trans (Nat.le_add_right _ _)
    · exact (Nat.succ_le_of_lt hplace).trans (Nat.le_succ _)
    · -- a template that was due takes the cursor to the end of the round at most
      exact absurd (Nat.succ.inj hend) hplace.ne

/-- Building a segment that is handed out moves the frontier no further than the units. -/
theorem inBounds_of_built (h : InBounds history l) (hstep : l.HandsOut (some segment) l')
    (coins : Random.Key) : InBounds (history ++ [segment])
      { l' with state :=
        { l'.state with coins, frontier := l.state.frontier + segment.totalWidth } } := by
  have hafter := inBounds_of_handsOut h hstep
  refine ⟨fun hnil => ?_, hafter.floor_le_mark, hafter.mark_le, ?_, hafter.cursor_le,
    hafter.cursor_eq⟩
  · exact absurd (List.append_eq_nil_iff.mp hnil).2 (List.cons_ne_nil _ _)
  · show l.state.frontier + _ ≤ l'.state.unitsBuilt
    rw [hstep.units_eq]
    exact Nat.add_le_add_right h.frontier_le _

end Steps

/-- The numbers of every reachable play are in bounds, and it has handed out only what its level
may. -/
theorem inBounds_of_reachable {plan : LevelPlan} (hadmissible : plan.blueprint.bosses.Admissible)
    {history : List Segment} {p : Play} (hreach : Play.Reachable plan history p) :
    p.level.plan = plan ∧ InBounds history p.level ∧
      ∀ s ∈ history, plan.blueprint.MayHandOut s := by
  refine hreach.induction_of_built (P := fun history l => InBounds history l ∧
    ∀ s ∈ history, plan.blueprint.MayHandOut s) hadmissible ⟨inBounds_start plan, nofun⟩ ?_ ?_ ?_
  · rintro history l answer l' rfl ⟨hbounds, hlegal⟩ hstep
    refine ⟨inBounds_of_handsOut hbounds hstep, fun s hs => ?_⟩
    rcases List.mem_append.mp hs with hs | hs
    · exact hlegal s hs
    · obtain rfl := Option.mem_toList.mp hs
      exact mayHandOut_of_handsOut hstep
  · rintro history l segment l₁ coins rfl ⟨hbounds, hlegal⟩ hstep
    refine ⟨inBounds_of_built hbounds hstep coins, fun s hs => ?_⟩
    rcases List.mem_append.mp hs with hs | hs
    · exact hlegal s hs
    · obtain rfl := List.mem_singleton.mp hs
      exact mayHandOut_of_handsOut hstep
  · rintro history l selection - ⟨hbounds, hlegal⟩
    exact ⟨⟨hbounds.fresh, hbounds.floor_le_mark, hbounds.mark_le, hbounds.frontier_le,
      hbounds.cursor_le, hbounds.cursor_eq⟩, hlegal⟩

end Level

/-- Every step of a level is legal, whatever was called before it. `next` always answers; a segment
that it hands out adds its width and its gap to the units, only templates have gaps, and these have
one or two tiles where gaps are switched on; a template has an index below their number, also where
they are shuffled. The numbers of a level are those of a fresh level, or they are in order from the
spawn floor on, and the index is that behind the templates only once the end wall was handed out. -/
theorem Play.legal_of_reachable {plan : LevelPlan} (hfilled : plan.blueprint.Filled)
    {history : List Segment} {p : Play} (hreach : Play.Reachable plan history p) :
    (∃ answer p', p.next = .ok (answer, p') ∧ ∀ s ∈ answer,
      p'.level.state.unitsBuilt = p.level.state.unitsBuilt + (s.template.width + s.gap) ∧
      plan.blueprint.MayHandOut s) ∧
    (∀ s ∈ history, plan.blueprint.MayHandOut s) ∧
    let state := p.level.state
    (state.unitsBuilt = 0 ∧ state.lastUnitsBuilt = 0 ∧ state.frontier = 0 ∧ state.index = -1) ∨
      (12 ≤ state.lastUnitsBuilt ∧ state.lastUnitsBuilt ≤ state.unitsBuilt ∧
        state.frontier ≤ state.unitsBuilt ∧
        -1 ≤ state.index ∧ state.index ≤ plan.blueprint.count ∧
        (state.index = plan.blueprint.count → ∃ s ∈ history, s.kind = .terminal)) := by
  obtain ⟨rfl, hbounds, hlegal⟩ := Level.inBounds_of_reachable hfilled.admissible hreach
  refine ⟨?_, hlegal, ?_⟩
  · obtain ⟨answer, l', hnext, hstep⟩ := Level.exists_handsOut hfilled.admissible
    refine ⟨answer, { p with level := l' }, next_eq_ok_iff.mpr ⟨l', hnext, rfl⟩, ?_⟩
    rintro s rfl
    exact ⟨hstep.units_eq, Level.mayHandOut_of_handsOut hstep⟩
  · intro state
    have hcursor : p.level.state.cursor ≤ p.level.plan.blueprint.count + 1 := hbounds.cursor_le
    by_cases hnil : history = []
    · obtain ⟨hunits, hmark, hfrontier, hcursor⟩ := hbounds.fresh hnil
      exact .inl ⟨hunits, hmark, hfrontier, congrArg (fun n : Nat => (n : Int) - 1) hcursor⟩
    · refine .inr ⟨hbounds.floor_le_mark hnil, hbounds.mark_le, hbounds.frontier_le, ?_, ?_, ?_⟩
      · show (-1 : Int) ≤ (p.level.state.cursor : Int) - 1
        omega
      · show (p.level.state.cursor : Int) - 1 ≤ _
        omega
      · intro hindex
        change (p.level.state.cursor : Int) - 1 = _ at hindex
        apply hbounds.cursor_eq
        show p.level.state.cursor = p.level.plan.blueprint.count + 1
        omega

/-- A play of the meadow behind its spawn floor and its first block. -/
theorem Play.legal_of_reachable_meadow :
    LevelPlan.meadow.blueprint.Filled ∧ ∃ history p, Play.Reachable .meadow history p ∧
      history.length = 2 ∧ 12 ≤ p.level.state.lastUnitsBuilt ∧ p.level.state.index ≤ 2 := by
  have hstart : Play.Reachable .meadow [] (.start .meadow none) := .start none
  have hreach := (hstart.call .next).call .next
  refine ⟨LevelPlan.filled_meadow, _, _, hreach, rfl, ?_⟩
  obtain ⟨-, -, ⟨hunits, -⟩ | ⟨hmark, -, -, -, hindex, -⟩⟩ :=
    Play.legal_of_reachable LevelPlan.filled_meadow hreach
  · -- the floor and a template were handed out
    exact absurd hunits (by decide)
  · exact ⟨hmark, hindex⟩

end LevelForge
