import LevelForge.Proofs.Catalog.Shelf
import LevelForge.Proofs.Level.Incremental
import LevelForge.Proofs.Level.Recast
import LevelForge.Proofs.Preview.Listing

/-!
# The list of a preview and its picture

A preview lists the segments that a level hands out, rewinds the level and builds it. The two loops
stop by different tests: the list looks at the units after every segment, the generation looks at
the frontier before every one. Still both come to the same segments, and of the first nothing
remains but its lines.

* `Abreast`: a level that has only handed out, next to a generation of the same segments.
* `listing_of_generateFrom`: what is generated is what is listed.
* `run_structures`: a report with a list is the report without it, behind the lines of what is
  built.
-/

namespace LevelForge

namespace Level

/-- A level that has handed out a segment is past its start. -/
theorem HandsOut.unitsBuilt_ne_zero {l l' : Level} {segment : Segment}
    (h : l.HandsOut (some segment) l') : l'.state.unitsBuilt ≠ 0 := by
  rw [h.units_eq]
  cases h with
  | floor => exact Nat.add_eq_zero_iff.not.mpr fun hzero => absurd hzero.2 (Nat.succ_ne_zero _)
  | wall hunits | arena hunits | template hunits =>
    exact fun hzero => hunits (Nat.add_eq_zero_iff.mp hzero).1

end Level

namespace Preview

open Level (Generation)

/-! ## Both loops side by side -/

/-- A level that has only handed out segments, next to the generation that has built them. -/
structure Abreast (l : Level) (g : Generation) : Prop where
  plan : g.level.plan = l.plan
  point : l.state.SamePoint g.level.state
  -- everything that was handed out is built
  frontier : g.level.state.frontier = g.level.state.unitsBuilt
  -- what has nothing left is past its start
  started : g.level.state.unitsBuilt ≠ 0 ∨ g.level.hasNext = true

section Loops

variable {l : Level} {g g' : Generation} {target : Int} {limit stalled : Nat}

theorem abreast_start (plan : LevelPlan) (s : Spawner) :
    Abreast (Level.start plan) { level := Level.start plan, spawner := s } := by
  refine ⟨rfl, .refl _, rfl, .inr ?_⟩
  simp [Level.hasNext, Level.start, LevelState.start]

theorem Abreast.units (h : Abreast l g) : l.state.unitsBuilt = g.level.state.frontier :=
  h.point.units.trans h.frontier.symm

/-- The next segment is handed out where it is built. -/
theorem Abreast.next (h : Abreast l g) (hadmissible : l.plan.blueprint.bosses.Admissible)
    {built : Level.Built} (hbuild : g.level.buildNext g.spawner = .ok (some built)) :
    ∃ l', l.next = .ok (some built.segment, l') ∧ l'.plan = l.plan ∧
      Abreast l' (g.add built) := by
  obtain ⟨l₁, coins, key, hnext, hlevel, -, -⟩ := Level.buildNext_spec hbuild
  obtain ⟨l', hnext', hplan', hpoint⟩ := Level.next_congr h.plan.symm h.point hnext
  have hhands := Level.handsOut_of_next (h.plan.symm ▸ hadmissible) hnext
  have hstate : (g.add built).level = { l₁ with state :=
      { l₁.state with coins, frontier := g.level.state.frontier + built.segment.totalWidth } } :=
    hlevel
  refine ⟨l', hnext', hplan'.trans (hhands.plan_eq.trans h.plan), ?_⟩
  constructor
  · rw [hstate, hplan']
  · rw [hstate]
    exact ⟨hpoint.units, hpoint.mark, hpoint.cursor, hpoint.selection⟩
  · rw [hstate]
    show g.level.state.frontier + built.segment.totalWidth = l₁.state.unitsBuilt
    rw [hhands.units_eq, h.frontier]
  · rw [hstate]
    exact .inl hhands.unitsBuilt_ne_zero

/-- Where nothing is left to build nothing is handed out. -/
theorem Abreast.next_eq_none (h : Abreast l g) (hend : g.level.hasNext = false) :
    ∃ l', l.next = .ok (none, l') := by
  have hunits : g.level.state.unitsBuilt ≠ 0 := by
    refine h.started.resolve_right ?_
    rw [hend]
    exact Bool.false_ne_true
  have hnext : g.level.next = .ok (none, g.level) := by simp [Level.next, hunits, hend]
  obtain ⟨l', hnext', -, -⟩ := Level.next_congr h.plan.symm h.point hnext
  exact ⟨l', hnext'⟩

/-- The rest of a generation that does not warn is the rest of the list. -/
theorem listing_of_generateFrom (h : Level.generateFrom target limit stalled g = .ok g')
    (hquiet : ∀ levelId, .zeroWidthLevel levelId ∉ g'.warnings)
    (hshort : (g.level.state.frontier : Int) < target) :
    ∀ l, l.plan.blueprint.bosses.Admissible → Abreast l g →
      ∃ segments enough last, g'.segments.toList = g.segments.toList ++ segments ∧
        listing target enough l = .ok (some (segments, last)) := by
  fun_induction Level.generateFrom target limit stalled g with
  | case1 => cases h
  | case2 stalled g hopen hbuild =>
    rw [Level.hasNext_eq_false_of_buildNext hbuild] at hopen
    cases hopen.2
  | case3 =>
    cases h
    exact absurd Array.mem_push_self (hquiet _)
  | case4 stalled g hopen built hbuild g₁ hwidth hlimit ih =>
    intro l hadmissible habreast
    obtain ⟨l', hnext, hplan, habreast'⟩ := habreast.next hadmissible hbuild
    have hfrontier := Level.frontier_of_buildNext hbuild
    have hshort' : (g₁.level.state.frontier : Int) < target := by
      rw [Level.Generation.level_add, hfrontier, hwidth, Nat.add_zero]
      exact hshort
    obtain ⟨segments, enough, last, hsegments, hlisting⟩ :=
      ih h hshort' l' (hplan.symm ▸ hadmissible) habreast'
    refine ⟨built.segment :: segments, enough + 1, last, ?_, ?_⟩
    · simpa [g₁] using hsegments
    · have hunits : (l'.state.unitsBuilt : Int) < target := by rwa [habreast'.units]
      rw [listing_of_lt hnext hunits, hlisting]
      rfl
  | case5 stalled g hopen built hbuild g₁ hwidth ih =>
    intro l hadmissible habreast
    obtain ⟨l', hnext, hplan, habreast'⟩ := habreast.next hadmissible hbuild
    by_cases hreached : target ≤ (g₁.level.state.frontier : Int)
    · -- the list stops behind this segment, and the generation before the next one
      have hclosed : ¬ g₁.IsOpen target := fun hopen => Int.not_lt.mpr hreached hopen.1
      obtain rfl : g₁ = g' :=
        Except.ok.inj ((Level.generateFrom_of_not_isOpen hclosed).symm.trans h)
      refine ⟨[built.segment], 1, l', by simp [g₁], listing_of_le hnext ?_ 0⟩
      rwa [habreast'.units]
    · have hshort' := Int.not_le.mp hreached
      obtain ⟨segments, enough, last, hsegments, hlisting⟩ :=
        ih h hshort' l' (hplan.symm ▸ hadmissible) habreast'
      refine ⟨built.segment :: segments, enough + 1, last, ?_, ?_⟩
      · simpa [g₁] using hsegments
      · have hunits : (l'.state.unitsBuilt : Int) < target := by rwa [habreast'.units]
        rw [listing_of_lt hnext hunits, hlisting]
        rfl
  | case6 stalled g hclosed =>
    intro l hadmissible habreast
    cases h
    have hend : g'.level.hasNext = false := by
      rw [← Bool.not_eq_true]
      exact fun hnext => hclosed ⟨hshort, hnext⟩
    obtain ⟨l', hnext⟩ := habreast.next_eq_none hend
    exact ⟨[], 1, l', by simp, listing_of_none hnext 0⟩

/-- What is generated from the start without a warning is what is listed from the start. -/
theorem exists_listing_of_generate {plan : LevelPlan} {s : Spawner}
    (hadmissible : plan.blueprint.bosses.Admissible) (hpos : 0 < target)
    (h : (Level.start plan).generate s target = .ok g)
    (hquiet : ∀ levelId, .zeroWidthLevel levelId ∉ g.warnings) :
    ∃ enough last, listing target enough (Level.start plan) =
      .ok (some (g.segments.toList, last)) := by
  obtain ⟨segments, enough, last, hsegments, hlisting⟩ :=
    listing_of_generateFrom h hquiet hpos (Level.start plan) hadmissible (abreast_start plan s)
  refine ⟨enough, last, ?_⟩
  rw [hsegments]
  exact hlisting

end Loops

/-! ## Rewinding -/

/-- Handing out changes neither the plan nor the spawner of a play. -/
theorem keeps_of_handOut {p p' : Play} (hadmissible : p.level.plan.blueprint.bosses.Admissible)
    {times : Nat} {answers : List (Option Segment)} (h : p.handOut times = .ok (answers, p')) :
    p'.level.plan = p.level.plan ∧ p'.spawner = p.spawner := by
  induction times generalizing p answers with
  | zero =>
    cases h
    exact ⟨rfl, rfl⟩
  | succ times ih =>
    obtain ⟨answer, others, p₁, hnext, hmore, -⟩ := Play.handOut_succ_eq_ok_iff.mp h
    obtain ⟨l₁, hl₁, rfl⟩ := Play.next_eq_ok_iff.mp hnext
    have hplan := (Level.handsOut_of_next hadmissible hl₁).plan_eq
    obtain ⟨hplan', hspawner⟩ := ih (hplan.symm ▸ hadmissible) hmore
    exact ⟨hplan'.trans hplan, hspawner⟩

/-- Nothing remains of what was handed out when the play starts over. -/
theorem rewind_of_handOut {plan : LevelPlan} (hadmissible : plan.blueprint.bosses.Admissible)
    {s : Spawner} {times : Nat} {answers : List (Option Segment)} {p : Play}
    (h : (Play.start plan (some s)).handOut times = .ok (answers, p)) :
    p.rewind = Play.start plan (some s) := by
  obtain ⟨hplan, hspawner⟩ := keeps_of_handOut hadmissible h
  exact rewind_eq_start hplan hspawner

/-! ## Reports -/

/-- A plan that the options ask for is one that the catalog hands out. -/
theorem exists_load_of_planOf {catalog : Catalog} {today : Day} {o : Options} {levelId : String}
    {plan : LevelPlan} (h : (planOf catalog today o levelId).1 = .ok (some plan)) :
    ∃ seed mode, (catalog.load levelId seed mode).1 = .ok plan := by
  have hplan {found : Except Catalog.Unavailable LevelPlan}
      (hmap : found.map some = .ok (some plan)) : found = .ok plan := by
    cases found with
    | error fault => cases hmap
    | ok plan' =>
      cases hmap
      rfl
  unfold planOf at h
  split at h
  · exact ⟨_, _, hplan h⟩
  · split at h
    · exact ⟨_, _, hplan h⟩
    · exact ⟨_, _, hplan h⟩
    · -- without a value for the seed there is no plan
      rcases hfound : catalog.blueprint levelId with ⟨fault | b, _⟩ <;> rw [hfound] at h <;> cases h

/-- The blueprint of a plan that the options ask for is filled. -/
theorem filled_of_planOf {texts : Table String} {today : Day} {o : Options} {levelId : String}
    {plan : LevelPlan}
    (h : (planOf (.ofTexts texts) today o levelId).1 = .ok (some plan)) :
    plan.blueprint.Filled := by
  obtain ⟨seed, mode, hload⟩ := exists_load_of_planOf h
  have hanswer := ((Catalog.mirrors_ofTexts texts).load levelId seed mode).answer
  obtain ⟨text, -, hcompile⟩ :=
    Shelf.blueprint_eq_ok_iff.mp (Shelf.blueprint_of_load (hanswer.symm.trans hload))
  exact Ldl.filled_of_compile hcompile

section Reports

variable {texts : Table String} {today : Day} {o : Options} {levelId : String} {plan : LevelPlan}
  {c : Catalog} {width : Int}

theorem run_eq_levelReport (hdirectory : o.levelsDirectory ≠ some .missing)
    (hlevel : o.level = some levelId) (hwidth : o.width = .value width)
    (hplan : planOf (.ofTexts texts) today o levelId = (.ok (some plan), c)) (structures : Bool)
    (memory fuel : Nat) :
    run (.ofTexts texts) today { o with structures } memory fuel =
      levelReport c plan width structures memory fuel := by
  obtain ⟨_, directory, _, seed, daily, _⟩ := o
  dsimp only at hlevel hwidth hdirectory
  subst hlevel hwidth
  have hsame : planOf (.ofTexts texts) today
      ⟨levelId, directory, .value width, seed, daily, structures⟩ levelId =
        (.ok (some plan), c) := hplan
  rw [run, if_neg hdirectory]
  dsimp only
  rw [hsame]

/-- What `--structures` lists is what is generated. For a level that can be had and a width of one
column at least the level is generated, and unless that gives up for want of width, the list ends,
it is the list of the segments that are generated, in order, and whatever was handed out for it, the
level that starts over afterwards generates the same. The report with the list is the report without
it, behind one line for each segment. -/
theorem run_structures (hlevel : o.level = some levelId) (hwidth : o.width = .value width)
    (hpos : 1 ≤ width)
    (hplan : planOf (.ofTexts texts) today o levelId = (.ok (some plan), c)) :
    ∃ done, (Play.start plan (some .create)).generate width = .ok done ∧
      ((∀ levelId, .zeroWidthLevel levelId ∉ done.warnings) →
        (∀ times answers p, (Play.start plan (some .create)).handOut times = .ok (answers, p) →
          p.rewind.generate width = .ok done) ∧
        ∃ enough last, ∀ fuel, enough ≤ fuel →
          listing width fuel (Level.start plan) = .ok (some (done.segments, last)) ∧
          ∀ memory, run (.ofTexts texts) today { o with structures := true } memory fuel =
            (run (.ofTexts texts) today { o with structures := false } memory fuel).map
              fun report =>
                { report with
                  output := done.segments.map (fun segment => s!"  {segment.describe}") ++
                    report.output }) := by
  have hfilled : plan.blueprint.Filled := filled_of_planOf (congrArg Prod.fst hplan)
  have hadmissible := hfilled.admissible
  obtain ⟨g, hg⟩ := Level.exists_generate (l := Level.start plan) hadmissible
    (Spawner.create.reseed (Level.start plan).state.elements) width
  have hdone := Play.generate_eq_ok_iff (p := Play.start plan (some .create)).mpr
    ⟨_, g, rfl, hg, rfl⟩
  refine ⟨_, hdone, fun hquiet => ⟨?_, ?_⟩⟩
  · intro times answers p hhanded
    rw [rewind_of_handOut hadmissible hhanded]
    exact hdone
  · obtain ⟨enough, last, hlisting⟩ := exists_listing_of_generate hadmissible hpos hg
      fun levelId hmem => hquiet levelId (Array.mem_toList_iff.mpr hmem)
    refine ⟨enough, last, fun fuel hfuel => ?_⟩
    have hmore := listing_of_fuel_le hlisting hfuel
    refine ⟨hmore, fun memory => ?_⟩
    by_cases hdirectory : o.levelsDirectory = some .missing
    · simp [run, hdirectory, Except.map]
    · rw [run_eq_levelReport hdirectory hlevel hwidth hplan,
        run_eq_levelReport hdirectory hlevel hwidth hplan,
        levelReport_of_listing c memory hmore (plan_of_listing hadmissible hmore)]

end Reports

/-- A level of one block of a single tile. -/
def clearing : Table String := .ofList [("clearing", "\x7b\x7bInanimate\x7d\x7d")]

/-- What is asked for in the example: the level up to its fourteenth column. -/
def clearingOptions : Options := { level := some "clearing", width := .value 14 }

theorem run_structures_clearing :
    ∃ plan c done enough last,
      planOf (.ofTexts clearing) ⟨2000, 1, 1, by decide, by decide, by decide⟩ clearingOptions
        "clearing" = (.ok (some plan), c) ∧
      (Play.start plan (some .create)).generate 14 = .ok done ∧ done.warnings = [] ∧
      listing 14 enough (Level.start plan) = .ok (some (done.segments, last)) := by
  have hruns : (planOf (.ofTexts clearing) ⟨2000, 1, 1, by decide, by decide, by decide⟩
        clearingOptions "clearing").1.toOption.bind (·.map fun plan =>
          (plan.blueprint.count, ((Play.start plan (some .create)).generateWithin 14 42).map
            (·.map (·.warnings)))) = some (1, some (.ok [])) := by
    decide +kernel
  rcases hplan : planOf (.ofTexts clearing) ⟨2000, 1, 1, by decide, by decide, by decide⟩
    clearingOptions "clearing" with ⟨_ | (_ | plan), c⟩
  · rw [hplan] at hruns
    cases hruns
  · rw [hplan] at hruns
    cases hruns
  · rw [hplan, Except.toOption, Option.bind_some, Option.map_some] at hruns
    obtain ⟨hcount, hwarnings⟩ := Prod.mk.inj (Option.some.inj hruns)
    obtain ⟨done, hdone, hagree⟩ :=
      run_structures (o := clearingOptions) rfl rfl (by decide) hplan
    rw [Play.generateWithin_eq, hdone] at hwarnings
    · have hquiet : done.warnings = [] := by simpa [Except.map] using hwarnings
      obtain ⟨-, enough, last, hends⟩ := hagree (by simp [hquiet])
      exact ⟨plan, c, done, enough, last, rfl, hdone, hquiet, (hends enough le_rfl).1⟩
    · show (14 - ((0 : Nat) : Int)).toNat * (plan.blueprint.count + 2) ≤ 42
      rw [hcount]
      decide

end Preview

end LevelForge
