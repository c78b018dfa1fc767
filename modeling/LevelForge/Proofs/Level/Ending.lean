import LevelForge.Proofs.Filled
import LevelForge.Proofs.Level.Idle
import LevelForge.Proofs.Level.Incremental

/-!
# The end of a generation

A generation ends in one of three ways: it has reached its column, the level has nothing left, or a
whole round of segments without width was built and it gives up. `Progress` is what every segment
keeps until then, and from it follow the three ends; between two segments with width only so many
without can be built, which bounds the generation as a whole.

* `Level.generateWithin_eq`: how often a generation hands out at most.
* `Level.ending_of_generateFrom`: a generation ends at its column, where nothing is left, or idle.
* `Play.generate_ends`: the three ends of a generation, and where each of them comes about.
-/

namespace LevelForge

open Segment (EndsIdle)

/-! ## The warnings of a spawner -/

namespace Spawner

/-- Placing warns of unknown symbols only. -/
theorem zeroWidthLevel_notMem_place (s : Spawner) (p : Placement) (levelId : String) :
    .zeroWidthLevel levelId ∉ (s.place p).warnings := by
  have hresolve : .zeroWidthLevel levelId ∉ (s.resolve p.symbol).warnings := by
    unfold resolve
    split <;> simp
  unfold place
  dsimp only
  split <;> exact hresolve

theorem zeroWidthLevel_notMem_placeAll (s : Spawner) (placements : List Placement)
    (levelId : String) : .zeroWidthLevel levelId ∉ (s.placeAll placements).warnings := by
  induction placements generalizing s with
  | nil => exact List.not_mem_nil
  | cons p rest ih =>
    unfold placeAll
    dsimp only
    rw [List.mem_append, not_or]
    exact ⟨s.zeroWidthLevel_notMem_place p levelId, ih _⟩

/-- Building a segment warns of unknown symbols only. -/
theorem zeroWidthLevel_notMem_build (s : Spawner) (segment : Segment) (x : Int) (coins : Bool)
    (key : Option Random.Key) (levelId : String) :
    .zeroWidthLevel levelId ∉ (s.build segment x coins key).warnings :=
  s.zeroWidthLevel_notMem_placeAll _ levelId

end Spawner

namespace Level

/-! ## How long a generation takes -/

instance (g : Generation) (target : Int) : Decidable (g.IsOpen target) :=
  inferInstanceAs (Decidable (_ ∧ _))

/-- A generation that may hand out at most `calls` times; `none` when that is not enough. -/
def generateWithin (target : Int) (limit : Nat) :
    (calls stalled : Nat) → Generation → Option (Except Fault Generation)
  | 0, _, g => if g.IsOpen target then none else some (.ok g)
  | calls + 1, stalled, g =>
    if g.IsOpen target then
      match g.level.buildNext g.spawner with
      | .error fault => some (.error fault)
      | .ok none => some (.ok g)
      | .ok (some built) =>
        if built.width = 0 then
          if limit ≤ stalled then
            some (.ok { g.add built with
              warnings := (g.add built).warnings.push (.zeroWidthLevel g.level.plan.levelId) })
          else generateWithin target limit calls (stalled + 1) (g.add built)
        else generateWithin target limit calls 0 (g.add built)
    else some (.ok g)

/-- A generation hands out at most `limit + 1` times for each column that is missing: once with
width, and before that as many as `limit` times without. -/
theorem generateWithin_eq {target : Int} {limit calls stalled : Nat} {g : Generation}
    (hstalled : stalled ≤ limit)
    (hcalls : (target - g.level.state.frontier).toNat * (limit + 1) ≤ calls + stalled) :
    generateWithin target limit calls stalled g = some (generateFrom target limit stalled g) := by
  induction calls generalizing stalled g with
  | zero =>
    -- not even one missing column could be paid for, so none is missing
    have hclosed : ¬ g.IsOpen target := by
      rintro ⟨hmissing, -⟩
      have : limit + 1 ≤ (target - g.level.state.frontier).toNat * (limit + 1) :=
        Nat.le_mul_of_pos_left _ (by omega)
      omega
    rw [generateWithin, if_neg hclosed, generateFrom_of_not_isOpen hclosed]
  | succ calls ih =>
    by_cases hopen : g.IsOpen target
    · rw [generateWithin, if_pos hopen]
      cases hbuild : g.level.buildNext g.spawner with
      | error fault => rw [generateFrom_of_error hopen hbuild]
      | ok built? =>
        cases built? with
        | none => rw [generateFrom_of_none hbuild]
        | some built =>
          have hfrontier : (g.add built).level.state.frontier =
              g.level.state.frontier + built.width := frontier_of_buildNext hbuild
          rw [generateFrom_of_some hopen hbuild]
          dsimp only
          split
          · next hwidth =>
            split
            · rfl
            · next hlimit =>
              apply ih (by omega)
              rw [hfrontier, hwidth, Nat.add_zero]
              omega
          · next hwidth =>
            -- a segment with width pays for itself and for those before it
            apply ih (Nat.zero_le _)
            have hpaid : ((target - (g.add built).level.state.frontier).toNat + 1) * (limit + 1) ≤
                (target - g.level.state.frontier).toNat * (limit + 1) := by
              apply Nat.mul_le_mul_right
              have := hopen.1
              omega
            rw [Nat.add_one_mul] at hpaid
            omega
    · rw [generateWithin, if_neg hopen, generateFrom_of_not_isOpen hopen]

/-! ## Where a generation ends -/

/-- What a generation has done so far, when the last `stalled` segments had no width: its frontier
lies behind all it has built, was short of the column before the last segment, and no warning about
the level was given. -/
structure Progress (l : Level) (target : Int) (stalled : Nat) (g : Generation) : Prop where
  plan : g.level.plan = l.plan
  frontier : g.level.state.frontier = l.state.frontier + Segment.span g.segments.toList
  short : g.segments.toList ≠ [] →
    (l.state.frontier + Segment.span g.segments.toList.dropLast : Int) < target
  idle : EndsIdle g.segments.toList stalled
  quiet : ∀ levelId, .zeroWidthLevel levelId ∉ g.warnings

theorem progress_start (l : Level) (s : Spawner) (target : Int) :
    Progress l target 0 { level := l, spawner := s } where
  plan := rfl
  frontier := rfl
  short := nofun
  idle := Segment.endsIdle_zero _
  quiet _ := Array.not_mem_empty _

section Ending

variable {l : Level} {target : Int} {limit stalled : Nat} {g g' : Generation}

/-- One more segment: those without width add up, and one with width begins anew. -/
theorem Progress.add (hg : Progress l target stalled g)
    (hadmissible : l.plan.blueprint.bosses.Admissible) (hopen : g.IsOpen target) {built : Built}
    (hbuild : g.level.buildNext g.spawner = .ok (some built)) :
    Progress l target (if built.width = 0 then stalled + 1 else 0) (g.add built) := by
  have hadmissible' : g.level.plan.blueprint.bosses.Admissible := hg.plan.symm ▸ hadmissible
  obtain ⟨l₁, coins, key, -, hlevel, hwidth, -, hwarnings⟩ := buildNext_spec hbuild
  refine ⟨?_, ?_, ?_, ?_, ?_⟩
  · exact (plan_eq_of_buildNext hadmissible' hbuild).trans hg.plan
  · rw [Generation.level_add, Generation.segments_add, Segment.span_append,
      Segment.span_singleton, frontier_of_buildNext hbuild, hg.frontier, hwidth, Nat.add_assoc]
  · intro _
    rw [Generation.segments_add, List.dropLast_concat]
    -- before this segment the generation was open
    have := hopen.1
    rwa [hg.frontier, Int.natCast_add] at this
  · rw [Generation.segments_add]
    split
    · next hzero => exact hg.idle.concat (hwidth.symm.trans hzero)
    · exact Segment.endsIdle_zero _
  · intro levelId
    rw [← Array.mem_toList_iff, Generation.warnings_add, List.mem_append, not_or]
    refine ⟨fun hmem => hg.quiet levelId (Array.mem_toList_iff.mp hmem), ?_⟩
    rw [hwarnings]
    exact Spawner.zeroWidthLevel_notMem_build _ _ _ _ _ _

/-- A segment without width leaves a generation open: the frontier stays where it is, and behind a
template something is left. -/
theorem isOpen_of_width_eq_zero (hadmissible : g.level.plan.blueprint.bosses.Admissible)
    (hopen : g.IsOpen target) {built : Built}
    (hbuild : g.level.buildNext g.spawner = .ok (some built)) (hzero : built.width = 0) :
    (g.add built).IsOpen target := by
  obtain ⟨l₁, coins, key, hnext, hlevel, hwidth, -, -⟩ := buildNext_spec hbuild
  have hhands := handsOut_of_next hadmissible hnext
  obtain ⟨⟨place, hdue, hcursor⟩, -⟩ :=
    hhands.of_totalWidth_eq_zero (hwidth.symm.trans hzero)
  refine ⟨?_, ?_⟩
  · rw [Generation.level_add, frontier_of_buildNext hbuild, hzero, Nat.add_zero]
    exact hopen.1
  · rw [Generation.level_add, hlevel]
    exact hasNext_of_cursor_eq hhands.plan_eq hdue hcursor

/-- A generation ends closed, at its column or where nothing is left, or it ends open with a warning
behind more segments without width than allowed. -/
theorem ending_of_generateFrom (h : generateFrom target limit stalled g = .ok g')
    (hadmissible : l.plan.blueprint.bosses.Admissible) (hstalled : stalled ≤ limit)
    (hg : Progress l target stalled g) :
    (∃ k, Progress l target k g' ∧ ¬ g'.IsOpen target) ∨
      ∃ g₁, Progress l target (limit + 1) g₁ ∧ g₁.IsOpen target ∧
        g' = { g₁ with warnings := g₁.warnings.push (.zeroWidthLevel l.plan.levelId) } := by
  fun_induction generateFrom target limit stalled g with
  | case1 => cases h
  | case2 stalled g hopen hbuild =>
    -- nothing is built only where nothing is left, so this is no open generation
    rw [hasNext_eq_false_of_buildNext hbuild] at hopen
    cases hopen.2
  | case3 stalled g hopen built hbuild g₁ hwidth hlimit =>
    cases h
    have hadd := hg.add hadmissible hopen hbuild
    rw [if_pos hwidth, le_antisymm hstalled hlimit] at hadd
    refine .inr ⟨g₁, hadd, ?_, by rw [hg.plan]⟩
    exact isOpen_of_width_eq_zero (hg.plan.symm ▸ hadmissible) hopen hbuild hwidth
  | case4 stalled g hopen built hbuild g₁ hwidth hlimit ih =>
    have hadd := hg.add hadmissible hopen hbuild
    rw [if_pos hwidth] at hadd
    exact ih h (Nat.succ_le_of_lt (Nat.lt_of_not_le hlimit)) hadd
  | case5 stalled g hopen built hbuild g₁ hwidth ih =>
    have hadd := hg.add hadmissible hopen hbuild
    rw [if_neg hwidth] at hadd
    exact ih h (Nat.zero_le _) hadd
  | case6 stalled g hclosed =>
    cases h
    exact .inl ⟨stalled, hg, hclosed⟩

end Ending

end Level

namespace Play

/-- What a generation that may hand out at most `calls` times leaves behind; `none` when that is not
enough. -/
def generateWithin (p : Play) (target : Int) (calls : Nat) :
    Option (Except Level.Fault Generated) :=
  match p.spawner with
  | none => some (.error .noSpawner)
  | some spawner =>
    (Level.generateWithin target (p.level.count + 1) calls 0 { level := p.level, spawner }).map
      (·.map fun g => ⟨⟨g.level, some g.spawner⟩, g.segments.toList, g.warnings.toList⟩)

theorem generateWithin_eq {p : Play} {target : Int} {calls : Nat}
    (hcalls : (target - p.level.state.frontier).toNat * (p.level.count + 2) ≤ calls) :
    p.generateWithin target calls = some (p.generate target) := by
  unfold generateWithin generate
  cases p.spawner with
  | none => rfl
  | some spawner =>
    have hwithin := Level.generateWithin_eq (g := { level := p.level, spawner })
      (Nat.zero_le (p.level.count + 1)) hcalls
    dsimp only
    rw [hwithin, Level.generate]
    cases Level.generateFrom target (p.level.count + 1) 0 { level := p.level, spawner } <;> rfl

/-- A generation from a play on has reached its column, and had not before its last segment. -/
structure Generated.Reaches (done : Generated) (p : Play) (target : Int) : Prop where
  reached : target ≤ done.play.level.state.frontier
  short : done.segments ≠ [] →
    (p.level.state.frontier + Segment.span done.segments.dropLast : Int) < target

/-- A generation has come to the end of its level before its column. -/
structure Generated.Exhausts (done : Generated) (target : Int) : Prop where
  short : (done.play.level.state.frontier : Int) < target
  nothingLeft : done.play.level.hasNext = false

/-- A generation has given up before its column: it warns once, at the end, of a level without
width, though something is left, and as many segments as there are templates and two more had no
width. -/
structure Generated.GivesUp (done : Generated) (target : Int) : Prop where
  short : (done.play.level.state.frontier : Int) < target
  somethingLeft : done.play.level.hasNext = true
  warned : ∃ warnings, done.warnings =
      warnings ++ [.zeroWidthLevel done.play.level.plan.levelId] ∧
    ∀ levelId, .zeroWidthLevel levelId ∉ warnings
  idle : EndsIdle done.segments (done.play.level.count + 2)

variable {plan : LevelPlan} {history : List Segment} {p : Play} {s : Spawner}

/-- A generation ends with its frontier behind all it has built: at its column or where nothing is
left, without a warning about the level, or it gives up. -/
theorem exists_generate_ending (hadmissible : p.level.plan.blueprint.bosses.Admissible)
    (hspawner : p.spawner = some s) (target : Int) :
    ∃ done, p.generate target = .ok done ∧
      done.play.level.state.frontier = p.level.state.frontier + Segment.span done.segments ∧
      ((∀ levelId, .zeroWidthLevel levelId ∉ done.warnings) ∧
          (done.Reaches p target ∨ done.Exhausts target) ∨
        done.GivesUp target) := by
  obtain ⟨g, hg⟩ := Level.exists_generate hadmissible s target
  refine ⟨_, generate_eq_ok_iff.mpr ⟨s, g, hspawner, hg, rfl⟩, ?_⟩
  rcases Level.ending_of_generateFrom hg hadmissible (Nat.zero_le _)
    (Level.progress_start p.level s target) with
    ⟨k, hprogress, hclosed⟩ | ⟨g₁, hprogress, hopen, rfl⟩
  · refine ⟨hprogress.frontier, .inl ⟨?_, ?_⟩⟩
    · exact fun levelId hmem => hprogress.quiet levelId (Array.mem_toList_iff.mp hmem)
    · by_cases hreached : target ≤ g.level.state.frontier
      · exact .inl ⟨hreached, hprogress.short⟩
      · refine .inr ⟨by simpa using hreached, ?_⟩
        rw [← Bool.not_eq_true]
        exact fun hnext => hclosed ⟨by simpa using hreached, hnext⟩
  · refine ⟨hprogress.frontier, .inr ⟨hopen.1, hopen.2, ⟨g₁.warnings.toList, ?_, ?_⟩, ?_⟩⟩
    · rw [hprogress.plan]
      exact Array.toList_push
    · exact fun levelId hmem => hprogress.quiet levelId (Array.mem_toList_iff.mp hmem)
    · rw [Level.count, hprogress.plan]
      exact hprogress.idle

/-- A generation that gives up has handed out more segments without width in a row than there are
templates, so its level is endless and has no width to offer or leaves it to chance. -/
theorem Reachable.endless_of_givesUp (hadmissible : plan.blueprint.bosses.Admissible)
    (hreach : Reachable plan history p) {target : Int} {done : Generated}
    (hdone : p.generate target = .ok done) (hgivesUp : done.GivesUp target) :
    plan.blueprint.Endless ∧
      ¬ (plan.blueprint.OffersWidth ∧ ¬ plan.blueprint.IsGamble) := by
  have hafter := hreach.call (.generate target)
  simp only [perform, hdone, Call.extend, Reply.segments] at hafter
  have hplan : done.play.level.plan = plan :=
    (Level.onCourse_of_reachable hadmissible hafter).1
  have hidle := hgivesUp.idle.append_left history
  rw [Level.count, hplan] at hidle
  -- otherwise there would be at most one round of them
  by_contra hnot
  have hmoves : plan.blueprint.Endless →
      plan.blueprint.OffersWidth ∧ ¬ plan.blueprint.IsGamble := by
    intro hendless
    by_contra hstays
    exact hnot ⟨hendless, hstays⟩
  have : plan.blueprint.count + 2 ≤ plan.blueprint.count :=
    hafter.endsIdle_le_count hadmissible hmoves hidle
  omega

/-- A generation of a reachable play ends after at most so many calls that hand out a segment, and
in exactly one of three ways: it has reached its column, and had not before the last segment;
nothing is left before its column; or it gives up there, which only an endless level does. -/
theorem generate_ends (hfilled : plan.blueprint.Filled) (hreach : Reachable plan history p)
    (hspawner : p.spawner = some s) (target : Int) :
    ∃ done, p.generate target = .ok done ∧
      p.generateWithin target (((target - p.level.state.frontier).toNat + 1) *
        (plan.blueprint.count + 2)) = some (.ok done) ∧
      done.play.level.state.frontier = p.level.state.frontier + Segment.span done.segments ∧
      (done.Reaches p target ∧ ¬ done.Exhausts target ∧ ¬ done.GivesUp target ∨
        ¬ done.Reaches p target ∧ done.Exhausts target ∧ ¬ done.GivesUp target ∨
        ¬ done.Reaches p target ∧ ¬ done.Exhausts target ∧ done.GivesUp target) ∧
      (¬ done.GivesUp target → ∀ levelId, .zeroWidthLevel levelId ∉ done.warnings) ∧
      (done.GivesUp target → plan.blueprint.Endless) := by
  have hadmissible := hfilled.admissible
  have hplan := (Level.onCourse_of_reachable hadmissible hreach).1
  obtain ⟨done, hdone, hfrontier, hend⟩ :=
    exists_generate_ending (hplan.symm ▸ hadmissible) hspawner target
  -- the frontier tells the first end from the others, and what is left tells those apart
  have hshort : done.Exhausts target → ¬ done.Reaches p target :=
    fun hexhausts hreaches => hreaches.reached.not_gt hexhausts.short
  have hshort' : done.GivesUp target → ¬ done.Reaches p target :=
    fun hgivesUp hreaches => hreaches.reached.not_gt hgivesUp.short
  have hleft : done.GivesUp target → ¬ done.Exhausts target := by
    intro hgivesUp hexhausts
    have := hgivesUp.somethingLeft
    rw [hexhausts.nothingLeft] at this
    cases this
  refine ⟨done, hdone, ?_, hfrontier, ?_, ?_, ?_⟩
  · rw [generateWithin_eq, hdone]
    rw [Level.count, hplan]
    exact Nat.mul_le_mul_right _ (Nat.le_succ _)
  · rcases hend with ⟨hquiet, hreaches | hexhausts⟩ | hgivesUp
    · exact .inl ⟨hreaches, fun h => hshort h hreaches, fun h => hshort' h hreaches⟩
    · exact .inr (.inl ⟨hshort hexhausts, hexhausts, fun h => hleft h hexhausts⟩)
    · exact .inr (.inr ⟨hshort' hgivesUp, hleft hgivesUp, hgivesUp⟩)
  · intro hnot
    exact (hend.resolve_right hnot).1
  · exact fun hgivesUp => (hreach.endless_of_givesUp hadmissible hdone hgivesUp).1

theorem generate_ends_meadow :
    LevelPlan.meadow.blueprint.Filled ∧
      Reachable .meadow [] (start .meadow (some .create)) ∧
      ∃ done, (start .meadow (some .create)).generate 100 = .ok done ∧
        (start .meadow (some .create)).generateWithin 100 404 = some (.ok done) ∧
        (∀ levelId, .zeroWidthLevel levelId ∉ done.warnings) ∧
        (done.Reaches (start .meadow (some .create)) 100 ∨ done.Exhausts 100) := by
  have hfinite : ¬ LevelPlan.meadow.blueprint.Endless := by rintro ⟨hinfinite, -⟩; cases hinfinite
  obtain ⟨done, hdone, hcalls, -, hend, hquiet, hendless⟩ :=
    generate_ends LevelPlan.filled_meadow (.start (some .create)) rfl 100
  have hnot : ¬ done.GivesUp 100 := fun hgivesUp => hfinite (hendless hgivesUp)
  refine ⟨LevelPlan.filled_meadow, .start _, done, hdone, hcalls, hquiet hnot, ?_⟩
  rcases hend with ⟨hreaches, -⟩ | ⟨-, hexhausts, -⟩ | ⟨-, -, hgivesUp⟩
  · exact .inl hreaches
  · exact .inr hexhausts
  · exact absurd hgivesUp hnot

end Play

end LevelForge
