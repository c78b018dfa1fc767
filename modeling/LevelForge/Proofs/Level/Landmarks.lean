import LevelForge.Proofs.Level.Coins
import LevelForge.Proofs.Level.Ending
import LevelForge.Proofs.Level.Legality
import LevelForge.Proofs.Spawner.Standard

/-!
# Landmarks

Where a level begins and where it ends. Beside every segment that a generation builds stands its
site, what the spawner was asked for and what it made of it. The site of the first segment is the
spawn floor, and that of the last one the end wall; what stands there depends on what the aliases
of the level make of the floor tile and of the end trigger.

* `Site.Landmark`: when a site is the floor or the wall that it should be.
* `Level.sites_of_builds`: the sites of a run.
* `Play.landmarks_of_generate`: the floor and the wall of every generation.
* `Play.landmarks_thicket`: a level whose floor is not one.
-/

namespace LevelForge

/-- What stands where a segment was built. -/
structure Site where
  segment : Segment
  -- what the spawner was asked to place, in order
  asked : List Placement
  -- what it made of that
  made : List Element

/-- The site of a segment with its left column at `x`. -/
def Spawner.siteOf (s : Spawner) (segment : Segment) (x : Int) (coins : Option Random.Key) : Site :=
  let asked := segment.placements x s.worldHeight coins
  ⟨segment, asked, s.madeOf asked⟩

/-- The site of the segment that is built next. -/
def Level.site (l : Level) (s : Spawner) : List Site :=
  match l.next with
  | .ok (some segment, l') =>
    [s.siteOf segment (l.state.frontier + 1)
      (if l.has .autoCoinSpawn then some (l'.state.draw .coins).2 else none)]
  | _ => []

/-- The sites of the segments that a generation builds. -/
def Play.sites (p : Play) (target : Int) : List Site := p.notes Level.site [.generate target]

/-- The aliases make the floor tile a symbol that a standard spawner places floor tiles for. -/
def Blueprint.KeepsFloor (b : Blueprint) : Prop :=
  let tile := b.resolveAlias World.floorSymbol
  tile ≠ World.emptySymbol ∧
    (tile = World.floorSymbol ∨ Spawner.create.lookUp tile = .unknown)

/-- The site of a spawn floor is twelve floor tiles from the edge of the world on, and that of an
end wall the end trigger in the last column and else only coins, just when the aliases of the level
leave the floor tile and the end trigger alone. Aliases that make the floor tile a symbol nobody
knows change what is asked for, but not what is made. -/
structure Site.Landmark (site : Site) (b : Blueprint) (height : Int) (frontier : Nat) : Prop where
  asked_floor : site.segment.kind = .initial →
    (site.asked = World.tiles World.floorSymbol 1 height 12 ↔
      b.resolveAlias World.floorSymbol = World.floorSymbol)
  made_floor : site.segment.kind = .initial →
    (site.made = (World.tiles World.floorSymbol 1 height 12).map .placement ↔ b.KeepsFloor)
  asked_wall : site.segment.kind = .terminal →
    (site.asked.filter (·.symbol ≠ World.coinSymbol) =
        [World.trigger World.endTriggerSymbol frontier height] ↔
      b.resolveAlias World.endTriggerSymbol = World.endTriggerSymbol)
  made_wall : site.segment.kind = .terminal →
    (site.made.filter (·.origin.symbol ≠ World.coinSymbol) =
        [.placement (World.trigger World.endTriggerSymbol frontier height)] ↔
      b.resolveAlias World.endTriggerSymbol = World.endTriggerSymbol)

theorem Spawner.IsStandard.landmark_siteOf {s : Spawner} (h : s.IsStandard) {b : Blueprint}
    {segment : Segment} {x : Int} {frontier : Nat} (coins : Option Random.Key)
    (hinitial : segment.kind = .initial → segment = .spawnFloor b.aliases ∧ x = 1)
    (hterminal : segment.kind = .terminal → segment = .endWall b.aliases ∧ x = frontier) :
    (s.siteOf segment x coins).Landmark b s.worldHeight frontier where
  asked_floor hkind := by
    obtain ⟨rfl, rfl⟩ := hinitial hkind
    exact Segment.placements_spawnFloor_eq_iff 1 s.worldHeight coins
  made_floor hkind := by
    obtain ⟨rfl, rfl⟩ := hinitial hkind
    exact h.madeOf_spawnFloor_eq_iff b.aliases 1 s.worldHeight coins
  asked_wall hkind := by
    obtain ⟨rfl, rfl⟩ := hterminal hkind
    exact Segment.filter_placements_endWall_eq_iff frontier s.worldHeight coins
  made_wall hkind := by
    obtain ⟨rfl, rfl⟩ := hterminal hkind
    exact h.filter_madeOf_endWall_eq_iff b.aliases frontier s.worldHeight coins

namespace Level

variable {l l' : Level} {s s' : Spawner} {segment : Segment}

/-- Only the first step hands out a spawn floor. -/
theorem HandsOut.eq_spawnFloor (h : l.HandsOut (some segment) l')
    (hkind : segment.kind = .initial) :
    l.state.unitsBuilt = 0 ∧ segment = .spawnFloor l.plan.blueprint.aliases := by
  cases h with
  | floor hfresh => exact ⟨hfresh, rfl⟩
  | wall => cases hkind
  | arena => cases hkind
  | template => cases hkind

/-- An end wall is handed out last. -/
theorem HandsOut.eq_endWall (h : l.HandsOut (some segment) l') (hkind : segment.kind = .terminal) :
    segment = .endWall l.plan.blueprint.aliases ∧ l'.state.unitsBuilt ≠ 0 ∧ l'.hasNext = false := by
  cases h with
  | floor => cases hkind
  | wall hunits _ hdue =>
    refine ⟨rfl, Nat.succ_ne_zero _, hasNext_eq_false_iff.mpr ⟨?_, Nat.lt_succ_self _⟩⟩
    -- an endless level would have a template due
    intro hendless
    have hstartsOver : l.isEndless = true := isEndless_iff.mpr hendless
    unfold due? at hdue
    rw [if_pos hstartsOver] at hdue
    split at hdue <;> cases hdue
  | arena => cases hkind
  | template => cases hkind

/-- Where nothing is left nothing is built. -/
theorem Builds.eq_of_hasNext_eq_false {segments : List Segment} {warnings : List Warning}
    (h : l.Builds s segments warnings l' s') (hunits : l.state.unitsBuilt ≠ 0)
    (hnext : l.hasNext = false) : l' = l := by
  cases h with
  | done => rfl
  | step hbuild =>
    obtain ⟨l₁, coins, key, hnext', -⟩ := buildNext_spec hbuild
    simp [next, hunits, hnext] at hnext'

theorem Builds.eq_of_segments_eq_nil {segments : List Segment} {warnings : List Warning}
    (h : l.Builds s segments warnings l' s') (hnil : segments = []) : l' = l := by
  cases h with
  | done => rfl
  | step => cases hnil

/-- The segment that is built next has one site, and the spawner made what stands there. -/
theorem site_of_buildNext {built : Built} (h : l.buildNext s = .ok (some built)) :
    ∃ coins key, l.site s = [s.siteOf built.segment (l.state.frontier + 1) coins] ∧
      built.spawner =
        s.having key (s.siteOf built.segment (l.state.frontier + 1) coins).made := by
  obtain ⟨l₁, -, -, hnext, -⟩ := buildNext_spec h
  rw [buildNext_of_next hnext] at h
  have hspawner := congrArg Built.spawner (Option.some.inj (Except.ok.inj h))
  rw [site, hnext, ← hspawner]
  dsimp only
  -- the site has the coins that the segment was built with
  cases l.has .autoCoinSpawn with
  | true =>
    obtain ⟨key, hplaced⟩ := s.exists_placeAll_eq (built.segment.placements
      (l.state.frontier + 1) s.worldHeight (some (l₁.state.draw .coins).2))
    exact ⟨_, key, rfl, hplaced⟩
  | false =>
    obtain ⟨key, hplaced⟩ := s.exists_placeAll_eq (built.segment.placements
      (l.state.frontier + 1) s.worldHeight none)
    exact ⟨_, key, rfl, hplaced⟩

/-- The site of the first segment of a run: a floor only at the edge of the world, and a wall only
where the run ends. -/
theorem landmark_of_buildNext {built : Built} {segments : List Segment} {warnings : List Warning}
    (hbuild : l.buildNext s = .ok (some built))
    (hrest : built.level.Builds built.spawner segments warnings l' s')
    (hadmissible : l.plan.blueprint.bosses.Admissible) (hstandard : s.IsStandard)
    (hbehind : l.state.frontier ≤ l.state.unitsBuilt) (coins : Option Random.Key) :
    (s.siteOf built.segment (l.state.frontier + 1) coins).Landmark l.plan.blueprint s.worldHeight
      l'.state.frontier := by
  obtain ⟨l₁, _, _, hnext, hlevel, -⟩ := buildNext_spec hbuild
  have hhands := handsOut_of_next hadmissible hnext
  refine hstandard.landmark_siteOf coins (fun hkind => ?_) fun hkind => ?_
  · obtain ⟨hfresh, hfloor⟩ := hhands.eq_spawnFloor hkind
    exact ⟨hfloor, by omega⟩
  · -- behind the wall nothing is built, so it stands in the last column
    obtain ⟨hwall, hunits, hleft⟩ := hhands.eq_endWall hkind
    have hlast : l' = built.level := by
      refine hrest.eq_of_hasNext_eq_false ?_ ?_ <;> rw [hlevel]
      · exact hunits
      · exact hleft
    refine ⟨hwall, ?_⟩
    rw [hlast, hlevel, hwall]
    rfl

/-- Building moves the frontier no further than handing out moves the units. -/
theorem frontier_le_of_buildNext {built : Built} (hbuild : l.buildNext s = .ok (some built))
    (hadmissible : l.plan.blueprint.bosses.Admissible)
    (hbehind : l.state.frontier ≤ l.state.unitsBuilt) :
    built.level.state.frontier ≤ built.level.state.unitsBuilt := by
  obtain ⟨l₁, _, _, hnext, hlevel, -⟩ := buildNext_spec hbuild
  rw [hlevel]
  show l.state.frontier + built.segment.totalWidth ≤ l₁.state.unitsBuilt
  rw [(handsOut_of_next hadmissible hnext).units_eq]
  exact Nat.add_le_add_right hbehind _

/-- The sites of a run: one for each segment, with all that was made, and the floor and the wall
among them. -/
theorem sites_of_builds {segments : List Segment} {warnings : List Warning}
    (hruns : l.Builds s segments warnings l' s')
    (hadmissible : l.plan.blueprint.bosses.Admissible) (hstandard : s.IsStandard)
    (hbehind : l.state.frontier ≤ l.state.unitsBuilt) :
    (l.notes site s segments.length).map Site.segment = segments ∧
      (∃ key, s' = s.having key ((l.notes site s segments.length).flatMap Site.made)) ∧
      ∀ place ∈ l.notes site s segments.length,
        place.Landmark l.plan.blueprint s.worldHeight l'.state.frontier := by
  induction hruns with
  | done l s => exact ⟨rfl, ⟨s.key, by simp [notes, Spawner.reseed]⟩, nofun⟩
  | @step l l' s s' built segments warnings hbuild hrest ih =>
    obtain ⟨coins, key, hsite, hspawner⟩ := site_of_buildNext hbuild
    have hplan : built.level.plan = l.plan := plan_eq_of_buildNext hadmissible hbuild
    have hstandard' : built.spawner.IsStandard := by
      rw [hspawner]
      exact hstandard.of_sameSetUp (s.sameSetUp_having _ _)
    obtain ⟨hsegments, ⟨key', hmade⟩, hlandmarks⟩ := ih (hplan ▸ hadmissible) hstandard'
      (frontier_le_of_buildNext hbuild hadmissible hbehind)
    rw [hplan, hspawner] at hlandmarks
    rw [List.length_cons, notes_of_buildNext site hbuild, hsite, List.singleton_append]
    refine ⟨congrArg (built.segment :: ·) hsegments, ⟨key', ?_⟩, fun place hplace => ?_⟩
    · rw [hmade, hspawner, Spawner.having_having, List.flatMap_cons]
    · rcases List.mem_cons.mp hplace with rfl | hplace
      · exact landmark_of_buildNext hbuild hrest hadmissible hstandard hbehind coins
      · rw [hspawner] at hplace
        exact hlandmarks place hplace

end Level

namespace Play

variable {plan : LevelPlan} {history : List Segment} {p : Play} {s : Spawner} {target : Int}
  {done : Generated}

theorem sites_eq (hspawner : p.spawner = some s) (hdone : p.generate target = .ok done) :
    p.sites target = p.level.notes Level.site s done.segments.length := by
  simp [sites, notes, perform, hdone, hspawner, Reply.builtSegments]

/-- A generation from the start on hands out the spawn floor. -/
theorem exists_initial_of_generate (hadmissible : plan.blueprint.bosses.Admissible)
    (hreach : Reachable plan [] p) (hspawner : p.spawner = some s) (htarget : 0 < target)
    (hdone : p.generate target = .ok done) :
    ∃ segment ∈ done.segments, segment.kind = .initial := by
  have hafter := hreach.call (.generate target)
  simp only [perform, hdone, Call.extend, Reply.segments, List.nil_append] at hafter
  obtain ⟨-, hcourse⟩ := Level.onCourse_of_reachable hadmissible hafter
  rcases hcourse with ⟨hnil, hunits, -, hcursor⟩ | ⟨kind, handed, hfollows⟩
  · -- nothing was built, which is none of the ways in which a generation ends
    obtain ⟨rfl, hbounds, -⟩ := Level.inBounds_of_reachable hadmissible hreach
    obtain ⟨-, -, hfresh, -⟩ := hbounds.fresh rfl
    obtain ⟨done', hdone', hfrontier, hend⟩ :=
      exists_generate_ending hadmissible hspawner target
    obtain rfl := Except.ok.inj (hdone.symm.trans hdone')
    rw [hnil, hfresh] at hfrontier
    rcases hend with ⟨-, hreaches | hexhausts⟩ | hgivesUp
    · have := hreaches.reached
      simp only [hfrontier, Segment.span] at this
      omega
    · have := (Level.hasNext_eq_false_iff.mp hexhausts.nothingLeft).2
      omega
    · obtain ⟨before, idle, heq, hlength, -⟩ := hgivesUp.idle
      rw [hnil] at heq
      rw [(List.append_eq_nil_iff.mp heq.symm).2] at hlength
      cases hlength
  · obtain ⟨_, -, hisCourse⟩ := hfollows.itinerary.isCourse
    exact ⟨_, List.mem_of_mem_head? hisCourse.first, rfl⟩

/-- A generation to the end of a level hands out the end wall. -/
theorem exists_terminal_of_generate (hadmissible : plan.blueprint.bosses.Admissible)
    (hreach : Reachable plan history p) (hdone : p.generate target = .ok done)
    (hnext : p.level.hasNext = true) (hend : done.play.level.hasNext = false) :
    ∃ segment ∈ done.segments, segment.kind = .terminal := by
  have hafter := hreach.call (.generate target)
  simp only [perform, hdone, Call.extend, Reply.segments] at hafter
  obtain ⟨-, hcourse⟩ := Level.onCourse_of_reachable hadmissible hafter
  rcases hcourse with ⟨-, -, -, hcursor⟩ | ⟨kind, handed, hfollows⟩
  · have := (Level.hasNext_eq_false_iff.mp hend).2
    omega
  · obtain rfl := hfollows.hasNext_eq_false_iff.mp hend
    -- something was built, or nothing would have ended
    have hne : done.segments ≠ [] := by
      intro hnil
      obtain ⟨s, g, -, hg, rfl⟩ := generate_eq_ok_iff.mp hdone
      obtain ⟨warnings, hruns, -⟩ := Level.builds_of_generate hg
      rw [hruns.eq_of_segments_eq_nil hnil, hnext] at hend
      cases hend
    have hlast := List.getLast?_eq_some_getLast hne
    refine ⟨_, List.getLast_mem hne, hfollows.itinerary.kind_eq_of_mem_getLast? ?_⟩
    rw [List.getLast?_append_of_ne_nil _ hne, hlast]
    rfl

/-- A generation builds the floor and the wall of its level as they should be just when the aliases
leave their symbols alone, whatever was called before. Beside each built segment stands what the
standard spawner was asked for and what it made of it; at the start of a level one of the segments
is the spawn floor, and at the end of a finite level one is the end wall. -/
theorem landmarks_of_generate (hfilled : plan.blueprint.Filled)
    (hreach : Reachable plan history p) (hspawner : p.spawner = some s)
    (hstandard : s.IsStandard) (target : Int) :
    ∃ done s', p.generate target = .ok done ∧ done.play.spawner = some s' ∧
      (p.sites target).map Site.segment = done.segments ∧
      (s.record = true → s'.elements.toList =
        s.elements.toList ++ (p.sites target).flatMap Site.made) ∧
      (∀ site ∈ p.sites target,
        site.Landmark plan.blueprint s.worldHeight done.play.level.state.frontier) ∧
      (history = [] → 0 < target → ∃ site ∈ p.sites target, site.segment.kind = .initial) ∧
      (p.level.hasNext = true → done.play.level.hasNext = false →
        ∃ site ∈ p.sites target, site.segment.kind = .terminal) := by
  have hadmissible := hfilled.admissible
  obtain ⟨rfl, hbounds, -⟩ := Level.inBounds_of_reachable hadmissible hreach
  obtain ⟨g, hg⟩ := Level.exists_generate hadmissible s target
  obtain ⟨warnings, hruns, -⟩ := Level.builds_of_generate hg
  have hdone := generate_eq_ok_iff.mpr ⟨s, g, hspawner, hg, rfl⟩
  obtain ⟨hsegments, ⟨key, hmade⟩, hlandmarks⟩ :=
    Level.sites_of_builds hruns hadmissible hstandard hbounds.frontier_le
  rw [← sites_eq hspawner hdone] at hsegments hmade hlandmarks
  have hsite {kind : SegmentKind}
      (hexists : ∃ segment ∈ g.segments.toList, segment.kind = kind) :
      ∃ site ∈ p.sites target, site.segment.kind = kind := by
    obtain ⟨segment, hmem, hkind⟩ := hexists
    rw [← hsegments] at hmem
    obtain ⟨site, hsite, rfl⟩ := List.mem_map.mp hmem
    exact ⟨site, hsite, hkind⟩
  refine ⟨_, g.spawner, hdone, rfl, hsegments, fun hrecord => ?_, hlandmarks, ?_, ?_⟩
  · rw [hmade]
    simp [Spawner.having, hrecord]
  · rintro rfl htarget
    exact hsite (exists_initial_of_generate hadmissible hreach hspawner htarget hdone)
  · intro hnext hend
    exact hsite (exists_terminal_of_generate hadmissible hreach hdone hnext hend)

theorem landmarks_of_generate_meadow :
    LevelPlan.meadow.blueprint.Filled ∧ Reachable .meadow [] (start .meadow (some .create)) ∧
      (∃ site ∈ (start .meadow (some .create)).sites 100, site.segment.kind = .initial ∧
        site.made = (World.tiles World.floorSymbol 1 9 12).map .placement) ∧
      ∃ site ∈ (start .meadow (some .create)).sites 100, site.segment.kind = .terminal ∧
        site.made.filter (·.origin.symbol ≠ World.coinSymbol) =
          [.placement (World.trigger World.endTriggerSymbol 35 9)] := by
  have hreach : Reachable .meadow [] (start .meadow (some .create)) := .start _
  have hcreate := Spawner.isStandard_create World.standardHeight (.ofSeed 0) true false
  have hstandard := hcreate.of_sameSetUp
    (Spawner.create.sameSetUp_reseed (Level.start .meadow).state.elements)
  obtain ⟨done, s', hdone, -, -, -, hlandmarks, hinitial, hterminal⟩ :=
    landmarks_of_generate LevelPlan.filled_meadow hreach rfl hstandard 100
  -- the level ends before the column, with its wall in the column of the frontier
  have hrun : ((start .meadow (some .create)).generateWithin 100 400).map (·.map fun done =>
      (done.play.level.hasNext, done.play.level.state.frontier)) = some (.ok (false, 35)) := by
    decide +kernel
  rw [generateWithin_eq (by decide), hdone, Option.map_some, Option.some_inj] at hrun
  obtain ⟨hend, hfrontier⟩ := Prod.mk.inj (Except.ok.inj hrun)
  rw [hfrontier] at hlandmarks
  refine ⟨LevelPlan.filled_meadow, hreach, ?_, ?_⟩
  · obtain ⟨site, hsite, hkind⟩ := hinitial rfl (by decide)
    exact ⟨site, hsite, hkind, ((hlandmarks site hsite).made_floor hkind).mpr
      ⟨by decide, .inl rfl⟩⟩
  · obtain ⟨site, hsite, hkind⟩ := hterminal rfl hend
    exact ⟨site, hsite, hkind, ((hlandmarks site hsite).made_wall hkind).mpr rfl⟩

/-- An alias for the floor tile is enough to have a level start on a floor of hazards. -/
theorem landmarks_thicket :
    ∃ plan done s', LevelPlan.ofText "#ALIAS::Inanimate->RektKiller" "thicket" = .ok plan ∧
      (start plan (some .create)).generate 1 = .ok done ∧ done.play.spawner = some s' ∧
      done.segments.map Segment.kind = [.initial] ∧
      s'.elements.toList = (World.tiles "RektKiller" 1 9 12).map .placement ∧
      s'.elements.toList ≠ (World.tiles World.floorSymbol 1 9 12).map .placement := by
  have hrun : (LevelPlan.ofText "#ALIAS::Inanimate->RektKiller" "thicket").toOption.bind
      (fun plan => ((start plan (some .create)).generateWithin 1 (plan.blueprint.count + 2)).map
        (·.map fun done => (done.segments.map Segment.kind,
          done.play.spawner.map (·.elements.toList)))) =
      some (.ok ([.initial], some ((World.tiles "RektKiller" 1 9 12).map .placement))) := by
    decide +kernel
  cases hplan : LevelPlan.ofText "#ALIAS::Inanimate->RektKiller" "thicket" with
  | error fault => rw [hplan] at hrun; cases hrun
  | ok plan =>
    rw [hplan, Except.toOption, Option.bind_some,
      generateWithin_eq (Nat.one_mul (plan.blueprint.count + 2)).le, Option.map_some,
      Option.some_inj] at hrun
    cases hdone : (start plan (some .create)).generate 1 with
    | error fault => rw [hdone] at hrun; cases hrun
    | ok done =>
      rw [hdone] at hrun
      obtain ⟨hkinds, helements⟩ := Prod.mk.inj (Except.ok.inj hrun)
      obtain ⟨s', hspawner, helements⟩ := Option.map_eq_some_iff.mp helements
      exact ⟨plan, done, s', rfl, hdone, hspawner, hkinds, helements,
        helements ▸ by decide⟩

end Play

end LevelForge
