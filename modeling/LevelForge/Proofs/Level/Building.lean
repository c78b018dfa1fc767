import LevelForge.Level.Generation
import LevelForge.Proofs.Level.HandOut

/-!
# What a generation builds

A generation hands out segments and builds each behind the frontier, so it is a run of
`Level.buildNext`. `Builds` is that run with the segments and warnings it leaves; what a generation
does to a level is proved along it, one segment at a time.

* `buildNext_of_next`, `buildNext_spec`: one segment is handed out and built, and the frontier moves
  by its width.
* `builds_of_generate`: a generation is a run, with at most one warning of its own at the end.
* `exists_generate`: a level with admissible boss rules can always be generated.
-/

namespace LevelForge.Level

/-- The next segment is built behind the frontier, with coins by a key of its own where coins are
strewn. -/
theorem buildNext_of_next {l l' : Level} {segment : Segment} (h : l.next = .ok (some segment, l'))
    (s : Spawner) :
    let strews := l.has .autoCoinSpawn
    let drawn := l'.state.draw .coins
    let outcome :=
      s.build segment (l.state.frontier + 1) strews (if strews then some drawn.2 else none)
    l.buildNext s = .ok (some
      { segment
        width := segment.totalWidth
        level := { l' with state :=
          { if strews then drawn.1 else l'.state with
            frontier := l.state.frontier + segment.totalWidth } }
        spawner := outcome.spawner
        warnings := outcome.warnings }) := by
  unfold buildNext
  rw [h]
  cases l.has .autoCoinSpawn <;> rfl

/-- A segment that was built is the next one of the level. It stands behind the frontier, and of
the level only the frontier and the coin stream change besides. -/
theorem buildNext_spec {l : Level} {s : Spawner} {built : Built}
    (h : l.buildNext s = .ok (some built)) :
    ∃ l₁ coins key, l.next = .ok (some built.segment, l₁) ∧
      built.level = { l₁ with state :=
        { l₁.state with coins, frontier := l.state.frontier + built.segment.totalWidth } } ∧
      built.width = built.segment.totalWidth ∧
      built.spawner =
        (s.build built.segment (l.state.frontier + 1) (l.has .autoCoinSpawn) key).spawner ∧
      built.warnings =
        (s.build built.segment (l.state.frontier + 1) (l.has .autoCoinSpawn) key).warnings := by
  cases hnext : l.next with
  | error fault => simp [buildNext, hnext, bind, Except.bind] at h
  | ok answer =>
    obtain ⟨_ | segment, l₁⟩ := answer
    · simp [buildNext, hnext, bind, Except.bind, pure, Except.pure] at h
    · rw [buildNext_of_next hnext] at h
      cases h
      -- only where coins are strewn does a segment draw a key for them
      cases l.has .autoCoinSpawn with
      | true => exact ⟨l₁, _, _, rfl, rfl, rfl, rfl, rfl⟩
      | false => exact ⟨l₁, l₁.state.coins, none, rfl, rfl, rfl, rfl, rfl⟩

/-- A level with admissible boss rules either has nothing left or has its next segment built. -/
theorem exists_buildNext {l : Level} (hadmissible : l.plan.blueprint.bosses.Admissible)
    (s : Spawner) : ∃ built?, l.buildNext s = .ok built? := by
  obtain ⟨answer, l₁, hnext, -⟩ := exists_handsOut hadmissible
  unfold buildNext
  rw [hnext]
  cases answer with
  | none => exact ⟨none, rfl⟩
  | some segment => exact ⟨_, rfl⟩

/-- Building a segment keeps the plan. -/
theorem plan_eq_of_buildNext {l : Level} (hadmissible : l.plan.blueprint.bosses.Admissible)
    {s : Spawner} {built : Built} (h : l.buildNext s = .ok (some built)) :
    built.level.plan = l.plan := by
  obtain ⟨l₁, coins, key, hnext, hlevel, -⟩ := buildNext_spec h
  rw [hlevel]
  exact (handsOut_of_next hadmissible hnext).plan_eq

/-- Segments built one after the other: from a level and a spawner to those afterwards, with what
was built and what the spawners reported. -/
inductive Builds : Level → Spawner → List Segment → List Warning → Level → Spawner → Prop
  | done (l : Level) (s : Spawner) : Builds l s [] [] l s
  | step {l l' : Level} {s s' : Spawner} {built : Built} {segments : List Segment}
      {warnings : List Warning} :
      l.buildNext s = .ok (some built) →
      Builds built.level built.spawner segments warnings l' s' →
      Builds l s (built.segment :: segments) (built.warnings ++ warnings) l' s'

/-- Building segments one after the other keeps the plan. -/
theorem Builds.plan_eq {l l' : Level} {s s' : Spawner} {segments : List Segment}
    {warnings : List Warning} (h : Builds l s segments warnings l' s')
    (hadmissible : l.plan.blueprint.bosses.Admissible) : l'.plan = l.plan := by
  induction h with
  | done => rfl
  | step hbuild _ ih =>
    have hplan := plan_eq_of_buildNext hadmissible hbuild
    rw [ih (hplan ▸ hadmissible), hplan]

@[simp]
theorem Generation.level_add (g : Generation) (built : Built) :
    (g.add built).level = built.level := rfl

@[simp]
theorem Generation.spawner_add (g : Generation) (built : Built) :
    (g.add built).spawner = built.spawner := rfl

/-- The segment that is built comes last. -/
@[simp]
theorem Generation.segments_add (g : Generation) (built : Built) :
    (g.add built).segments.toList = g.segments.toList ++ [built.segment] := by
  simp [add]

/-- What is reported while a segment is built comes last. -/
@[simp]
theorem Generation.warnings_add (g : Generation) (built : Built) :
    (g.add built).warnings.toList = g.warnings.toList ++ built.warnings := by
  simp [add]

/-- A generation goes on by a run of segments, and warns of a level without width at most once,
after all of them. -/
theorem builds_of_generateFrom {target : Int} {limit stalled : Nat} {g g' : Generation}
    (h : generateFrom target limit stalled g = .ok g') :
    ∃ segments warnings, Builds g.level g.spawner segments warnings g'.level g'.spawner ∧
      g'.segments.toList = g.segments.toList ++ segments ∧
      (g'.warnings.toList = g.warnings.toList ++ warnings ∨
        ∃ levelId, g'.warnings.toList = g.warnings.toList ++ warnings ++ [.zeroWidthLevel levelId])
    := by
  -- a generation ends with nothing left, with a warning or at its column, and goes on otherwise
  fun_induction generateFrom target limit stalled g with
  | case1 => cases h
  | case2 stalled g =>
    cases h
    exact ⟨[], [], .done _ _, by simp, .inl (by simp)⟩
  | case3 stalled g _ built hbuild g₁ =>
    cases h
    refine ⟨[built.segment], built.warnings, ?_, by simp [g₁], .inr ⟨g.level.plan.levelId, ?_⟩⟩
    · simpa [g₁] using Builds.step hbuild (.done _ _)
    · rw [Array.toList_push, Generation.warnings_add]
  | case4 stalled g _ built hbuild g₁ _ _ ih =>
    obtain ⟨segments, warnings, hruns, hsegments, hwarnings⟩ := ih h
    refine ⟨_, _, .step hbuild hruns, by simp [hsegments, g₁], ?_⟩
    simpa [g₁] using hwarnings
  | case5 stalled g _ built hbuild g₁ _ ih =>
    obtain ⟨segments, warnings, hruns, hsegments, hwarnings⟩ := ih h
    refine ⟨_, _, .step hbuild hruns, by simp [hsegments, g₁], ?_⟩
    simpa [g₁] using hwarnings
  | case6 stalled g =>
    cases h
    exact ⟨[], [], .done _ _, by simp, .inl (by simp)⟩

/-- A generation is a run of segments, with at most one warning of its own at the end. -/
theorem builds_of_generate {l : Level} {s : Spawner} {target : Int} {g : Generation}
    (h : l.generate s target = .ok g) :
    ∃ warnings, Builds l s g.segments.toList warnings g.level g.spawner ∧
      (g.warnings.toList = warnings ∨
        ∃ levelId, g.warnings.toList = warnings ++ [.zeroWidthLevel levelId]) := by
  obtain ⟨segments, warnings, hruns, hsegments, hwarnings⟩ := builds_of_generateFrom h
  simp only [List.nil_append] at hsegments hwarnings
  rw [hsegments]
  exact ⟨warnings, hruns, hwarnings⟩

/-- A level with admissible boss rules can be generated from any state on. -/
theorem exists_generateFrom (target : Int) (limit stalled : Nat) (g : Generation)
    (hadmissible : g.level.plan.blueprint.bosses.Admissible) :
    ∃ g', generateFrom target limit stalled g = .ok g' := by
  fun_induction generateFrom target limit stalled g with
  | case1 stalled g _ fault hbuild =>
    obtain ⟨built?, hok⟩ := exists_buildNext hadmissible g.spawner
    rw [hbuild] at hok
    cases hok
  | case2 => exact ⟨_, rfl⟩
  | case3 => exact ⟨_, rfl⟩
  | case4 stalled g _ built hbuild g₁ _ _ ih =>
    exact ih ((plan_eq_of_buildNext hadmissible hbuild).symm ▸ hadmissible)
  | case5 stalled g _ built hbuild g₁ _ ih =>
    exact ih ((plan_eq_of_buildNext hadmissible hbuild).symm ▸ hadmissible)
  | case6 => exact ⟨_, rfl⟩

/-- A level with a spawner is built without a fault. -/
theorem exists_generate {l : Level} (hadmissible : l.plan.blueprint.bosses.Admissible)
    (s : Spawner) (target : Int) : ∃ g, l.generate s target = .ok g :=
  exists_generateFrom target _ _ _ hadmissible

end LevelForge.Level
