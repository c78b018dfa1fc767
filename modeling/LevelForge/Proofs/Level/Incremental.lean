import LevelForge.Proofs.Filled
import LevelForge.Proofs.Level.Calls

/-!
# Generating in parts

Building a level up to one column and then up to another is building it at once up to the further
one. What a generation counts for itself, the segments without width in a row, must come to nothing
where it stops: it stops at its column only when a segment had width, and otherwise where the level
ends or with a warning.

* `Level.generateFrom_eq_of_le`: a generation up to a further column passes through the nearer one.
* `Play.generate_generate`: generating twice is generating once.
-/

namespace LevelForge

namespace Level

/-- Whether a generation goes on. -/
def Generation.IsOpen (g : Generation) (target : Int) : Prop :=
  (g.level.state.frontier : Int) < target ∧ g.level.hasNext = true

/-- A generation that goes on to a column goes on to every column behind it. -/
theorem Generation.IsOpen.mono {g : Generation} {near far : Int} (h : g.IsOpen near)
    (hle : near ≤ far) : g.IsOpen far :=
  ⟨h.1.trans_le hle, h.2⟩

section Steps

variable {target : Int} {limit stalled : Nat} {g : Generation}

/-- A generation that has come to its column stays as it is. -/
theorem generateFrom_of_not_isOpen (hclosed : ¬ g.IsOpen target) :
    generateFrom target limit stalled g = .ok g := by
  rw [generateFrom]
  exact dif_neg hclosed

/-- A generation fails where a segment cannot be built. -/
theorem generateFrom_of_error (hopen : g.IsOpen target) {fault : Fault}
    (hbuild : g.level.buildNext g.spawner = .error fault) :
    generateFrom target limit stalled g = .error fault := by
  rw [generateFrom, dif_pos ⟨hopen.1, hopen.2⟩]
  split <;> rename_i heq <;> rw [hbuild] at heq <;> cases heq
  rfl

/-- A generation ends where nothing is left to build. -/
theorem generateFrom_of_none (hbuild : g.level.buildNext g.spawner = .ok none) :
    generateFrom target limit stalled g = .ok g := by
  rw [generateFrom]
  split
  · split <;> rename_i heq <;> rw [hbuild] at heq <;> cases heq
  · rfl

/-- A generation goes on behind a segment, unless one segment without width was too many. -/
theorem generateFrom_of_some (hopen : g.IsOpen target) {built : Built}
    (hbuild : g.level.buildNext g.spawner = .ok (some built)) :
    generateFrom target limit stalled g =
      if built.width = 0 then
        if limit ≤ stalled then
          .ok { g.add built with
            warnings := (g.add built).warnings.push (.zeroWidthLevel g.level.plan.levelId) }
        else generateFrom target limit (stalled + 1) (g.add built)
      else generateFrom target limit 0 (g.add built) := by
  rw [generateFrom, dif_pos ⟨hopen.1, hopen.2⟩]
  split <;> rename_i heq <;> rw [hbuild] at heq <;> cases heq
  rfl

end Steps

/-- The generation with what was built and reported before it. -/
def Generation.behind (g : Generation) (segments : Array Segment) (warnings : Array Warning) :
    Generation :=
  { g with segments := segments ++ g.segments, warnings := warnings ++ g.warnings }

/-- What was built before does not matter for the next segment. -/
theorem Generation.add_behind (g : Generation) (segments : Array Segment)
    (warnings : Array Warning) (built : Built) :
    (g.behind segments warnings).add built = (g.add built).behind segments warnings := by
  simp [add, behind]

/-- What was built and reported before plays no part in a generation. -/
theorem generateFrom_behind (target : Int) (limit stalled : Nat) (g : Generation)
    (segments : Array Segment) (warnings : Array Warning) :
    generateFrom target limit stalled (g.behind segments warnings) =
      (generateFrom target limit stalled g).map (·.behind segments warnings) := by
  fun_induction generateFrom target limit stalled g with
  | case1 stalled g hopen fault hbuild =>
    exact generateFrom_of_error (g := g.behind segments warnings) hopen hbuild
  | case2 stalled g hopen hbuild =>
    exact generateFrom_of_none (g := g.behind segments warnings) hbuild
  | case3 stalled g hopen built hbuild g₁ hwidth hlimit =>
    rw [generateFrom_of_some (g := g.behind segments warnings) hopen hbuild, if_pos hwidth,
      if_pos hlimit, Generation.add_behind]
    simp [Generation.behind, g₁, Except.map]
  | case4 stalled g hopen built hbuild g₁ hwidth hlimit ih =>
    rw [generateFrom_of_some (g := g.behind segments warnings) hopen hbuild, if_pos hwidth,
      if_neg hlimit, Generation.add_behind]
    exact ih
  | case5 stalled g hopen built hbuild g₁ hwidth ih =>
    rw [generateFrom_of_some (g := g.behind segments warnings) hopen hbuild, if_neg hwidth,
      Generation.add_behind]
    exact ih
  | case6 stalled g hclosed =>
    exact generateFrom_of_not_isOpen (g := g.behind segments warnings) hclosed

/-- A level that hands out nothing has nothing left. -/
theorem hasNext_eq_false_of_next {l l' : Level} (h : l.next = .ok (none, l')) :
    l.hasNext = false := by
  unfold next at h
  -- all other branches hand a segment out
  grind

/-- Nothing is built only where nothing is left. -/
theorem hasNext_eq_false_of_buildNext {l : Level} {s : Spawner}
    (h : l.buildNext s = .ok none) : l.hasNext = false := by
  unfold buildNext at h
  cases hnext : l.next with
  | error fault => simp [hnext, bind, Except.bind] at h
  | ok answer =>
    obtain ⟨_ | segment, l₁⟩ := answer
    · exact hasNext_eq_false_of_next hnext
    · simp [hnext, bind, Except.bind, pure, Except.pure] at h

section Parts

variable {near far : Int} {limit stalled : Nat} {g g' : Generation}

/-- A generation that does not warn stops where its column is reached or the level ends. -/
theorem not_isOpen_of_generateFrom (h : generateFrom near limit stalled g = .ok g')
    (hquiet : ∀ levelId, .zeroWidthLevel levelId ∉ g'.warnings) : ¬ g'.IsOpen near := by
  fun_induction generateFrom near limit stalled g with
  | case1 => cases h
  | case2 stalled g hopen hbuild =>
    cases h
    rw [hasNext_eq_false_of_buildNext hbuild] at hopen
    cases hopen.2
  | case3 =>
    cases h
    exact absurd Array.mem_push_self (hquiet _)
  | case4 stalled g hopen built hbuild g₁ hwidth hlimit ih => exact ih h
  | case5 stalled g hopen built hbuild g₁ hwidth ih => exact ih h
  | case6 stalled g hclosed =>
    cases h
    exact hclosed

/-- A generation up to a further column passes through where one up to a nearer column stops, and
has no segments without width in a row there: either the last one had width, or the level ends. -/
theorem generateFrom_eq_of_le (h : generateFrom near limit stalled g = .ok g')
    (hquiet : ∀ levelId, .zeroWidthLevel levelId ∉ g'.warnings) (hle : near ≤ far)
    (hstalled : stalled = 0 ∨ (g.level.state.frontier : Int) < near) :
    generateFrom far limit stalled g = generateFrom far limit 0 g' := by
  fun_induction generateFrom near limit stalled g with
  | case1 => cases h
  | case2 stalled g hopen hbuild =>
    cases h
    rw [generateFrom_of_none hbuild, generateFrom_of_none hbuild]
  | case3 =>
    cases h
    exact absurd Array.mem_push_self (hquiet _)
  | case4 stalled g hopen built hbuild g₁ hwidth hlimit ih =>
    have hfar : g.IsOpen far := Generation.IsOpen.mono hopen hle
    rw [generateFrom_of_some hfar hbuild, if_pos hwidth, if_neg hlimit]
    apply ih h
    -- a segment without width leaves the frontier before the column
    right
    have hfrontier := frontier_of_buildNext hbuild
    rw [hwidth, Nat.add_zero] at hfrontier
    rw [Generation.level_add, hfrontier]
    exact hopen.1
  | case5 stalled g hopen built hbuild g₁ hwidth ih =>
    have hfar : g.IsOpen far := Generation.IsOpen.mono hopen hle
    rw [generateFrom_of_some hfar hbuild, if_neg hwidth]
    exact ih h (.inl rfl)
  | case6 stalled g hclosed =>
    cases h
    rcases hstalled with rfl | hbefore
    · rfl
    · -- short of its column a generation stops only where the level ends
      have hend : ¬ g'.IsOpen far := fun hopen => hclosed ⟨hbefore, hopen.2⟩
      rw [generateFrom_of_not_isOpen hend, generateFrom_of_not_isOpen hend]

end Parts

/-- Two generations in a row are one up to the further of their columns. -/
theorem generate_max {l : Level} {s : Spawner} {a b : Int} {g g' : Generation}
    (hadmissible : l.plan.blueprint.bosses.Admissible) (h : l.generate s a = .ok g)
    (hquiet : ∀ levelId, .zeroWidthLevel levelId ∉ g.warnings)
    (h' : g.level.generate g.spawner b = .ok g') :
    l.generate s (max a b) = .ok (g'.behind g.segments g.warnings) := by
  have hplan : g.level.plan = l.plan := by
    obtain ⟨warnings, hruns, -⟩ := builds_of_generate h
    exact hruns.plan_eq hadmissible
  have hcount : g.level.count = l.count := by rw [count, hplan]; rfl
  -- the second generation goes on where the first one stopped, but counts afresh
  have hfresh : g = Generation.behind { level := g.level, spawner := g.spawner } g.segments
      g.warnings := by
    simp [Generation.behind]
  have hrest : generateFrom b (l.count + 1) 0 g = .ok (g'.behind g.segments g.warnings) := by
    rw [generate, hcount] at h'
    rw [hfresh, generateFrom_behind, h']
    rfl
  rw [generate, generateFrom_eq_of_le h hquiet (le_max_left a b) (.inl rfl)]
  rcases le_total a b with hle | hle
  · rw [max_eq_right hle]
    exact hrest
  · -- the first generation reached beyond the column of the second
    have hclosed := not_isOpen_of_generateFrom h hquiet
    rw [generateFrom_of_not_isOpen fun hopen => hclosed (hopen.mono hle)] at hrest
    rw [max_eq_left hle, generateFrom_of_not_isOpen hclosed]
    exact hrest

end Level

namespace Play

/-- Generating up to one column and then up to another leaves the same play, with the same segments
and warnings in the same order, as generating at once up to the further one, unless the first
generation was stopped for want of width. -/
theorem generate_generate {p : Play} {s : Spawner} (hfilled : p.level.plan.blueprint.Filled)
    (hspawner : p.spawner = some s) (a b : Int) :
    ∃ first, p.generate a = .ok first ∧
      ((∀ levelId, .zeroWidthLevel levelId ∉ first.warnings) →
        ∃ second, first.play.generate b = .ok second ∧
          p.generate (max a b) = .ok
            { play := second.play
              segments := first.segments ++ second.segments
              warnings := first.warnings ++ second.warnings }) := by
  have hadmissible := hfilled.admissible
  obtain ⟨g, hg⟩ := Level.exists_generate hadmissible s a
  refine ⟨_, generate_eq_ok_iff.mpr ⟨s, g, hspawner, hg, rfl⟩, fun hquiet => ?_⟩
  obtain ⟨warnings, hruns, -⟩ := Level.builds_of_generate hg
  have hadmissible' : g.level.plan.blueprint.bosses.Admissible := by
    rw [hruns.plan_eq hadmissible]
    exact hadmissible
  obtain ⟨g', hg'⟩ := Level.exists_generate hadmissible' g.spawner b
  refine ⟨_, generate_eq_ok_iff.mpr ⟨g.spawner, g', rfl, hg', rfl⟩, ?_⟩
  have hquiet' : ∀ levelId, .zeroWidthLevel levelId ∉ g.warnings := by
    intro levelId hmem
    exact hquiet levelId (Array.mem_toList_iff.mpr hmem)
  refine generate_eq_ok_iff.mpr ⟨s, _, hspawner, Level.generate_max hadmissible hg hquiet' hg', ?_⟩
  simp [Level.Generation.behind]

/-- The meadow built in two steps is the meadow built in one. -/
theorem generate_generate_meadow :
    LevelPlan.meadow.blueprint.Filled ∧
      ∃ first, (start .meadow (some .create)).generate 12 = .ok first ∧ first.warnings = [] ∧
        ∃ second, first.play.generate 30 = .ok second ∧
          (start .meadow (some .create)).generate 30 = .ok
            { play := second.play
              segments := first.segments ++ second.segments
              warnings := first.warnings ++ second.warnings } := by
  obtain ⟨first, hfirst, hrest⟩ :=
    generate_generate (p := start .meadow (some .create)) LevelPlan.filled_meadow rfl 12 30
  have hwarnings : first.warnings = [] := by
    obtain ⟨s, g, hs, hg, rfl⟩ := generate_eq_ok_iff.mp hfirst
    cases hs
    -- the floor is built, and reaches the column
    have hfloor : (start .meadow (some .create)).level.buildNext
        (Spawner.create.reseed (LevelState.start (.ofSeed 0)).elements) = .ok (some _) := rfl
    rw [Level.generate, Level.generateFrom_of_some ⟨by decide, by decide⟩ hfloor,
      if_neg (by decide),
      Level.generateFrom_of_not_isOpen fun hopen => absurd hopen.1 (by decide)] at hg
    cases hg
    rfl
  refine ⟨LevelPlan.filled_meadow, first, hfirst, hwarnings, hrest ?_⟩
  rw [hwarnings]
  exact fun _ => List.not_mem_nil

end Play

end LevelForge
