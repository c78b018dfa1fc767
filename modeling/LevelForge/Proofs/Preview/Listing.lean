import LevelForge.Preview.Report
import LevelForge.Proofs.Level.Sequence
import LevelForge.Proofs.Level.Stall

/-!
# The list of segments in a preview

A preview lists the segments of a level until a width is built. Unlike a generation, the list does
not count segments without width. It goes on for ever exactly where a level, before the width is
built, hands out nothing else any more; a level with width to offer that leaves nothing to chance
never does.

* `spins_start_iff`: when a list has no end.
* `exists_listing_of_reachable`: how many calls a list takes at most.
* `listing_ends`: which lists end, and what follows on them.
-/

namespace LevelForge

open Segment (EndsIdle)

/-- An endless level of one empty block. -/
def LevelPlan.void : LevelPlan where
  levelId := "void"
  blueprint :=
    { name := some "void"
      settings := .ofList [("INFINITE", "1")]
      templates := #[.bare]
      frozen := true
      bosses := ⟨[], true⟩ }

/-- The void is filled from an empty blueprint. -/
theorem LevelPlan.filled_void : void.blueprint.Filled := by
  have hempty : Blueprint.Filled { name := some "void" } := .empty _
  have hendless := hempty.setSetting "INFINITE" "1" rfl
  exact (hendless.addTemplate .bare rfl).freeze

/-- The void has nothing but an empty block, and leaves no gaps. -/
theorem LevelPlan.not_offersWidth_void : ¬ void.blueprint.OffersWidth := by
  rintro (⟨t, ht, hpos⟩ | ⟨hgaps, -⟩)
  · simp only [void, List.mem_toArray, List.mem_singleton] at ht
    subst ht
    exact absurd hpos (Nat.lt_irrefl 0)
  · cases hgaps

/-- From here on the play hands out segments without width for ever. -/
def Play.Idles (p : Play) : Prop :=
  ∀ times, ∃ (segments : List Segment) (p' : Play),
    p.handOut times = .ok (segments.map some, p') ∧ ∀ s ∈ segments, s.totalWidth = 0

/-- Before so much is built, the level of the plan idles. -/
def LevelPlan.IdlesBelow (plan : LevelPlan) (width : Int) : Prop :=
  ∃ (segments : List Segment) (p : Play),
    (Play.start plan none).handOut segments.length = .ok (segments.map some, p) ∧
      (Segment.span segments : Int) < width ∧ p.Idles

namespace Play

/-- A play that idles hands out a segment without width and idles on. -/
theorem Idles.next {p : Play} (h : p.Idles) :
    ∃ segment p', p.next = .ok (some segment, p') ∧ segment.totalWidth = 0 ∧ p'.Idles := by
  obtain ⟨segments, p₁, hone, hidle⟩ := h 1
  obtain ⟨answer, rest, p', hnext, -, hanswers⟩ := handOut_succ_eq_ok_iff.mp hone
  obtain ⟨segment, segments, rfl, rfl, -⟩ := List.map_eq_cons_iff.mp hanswers
  refine ⟨segment, p', hnext, hidle segment List.mem_cons_self, fun times => ?_⟩
  -- the same run without its first segment
  obtain ⟨others, p'', hmore, hidle'⟩ := h (times + 1)
  obtain ⟨answer', rest', p₁', hnext', hrest, hanswers'⟩ := handOut_succ_eq_ok_iff.mp hmore
  rw [hnext] at hnext'
  cases hnext'
  obtain ⟨_, others, rfl, -, rfl⟩ := List.map_eq_cons_iff.mp hanswers'
  exact ⟨others, p'', hrest, fun s hs => hidle' s (List.mem_cons_of_mem _ hs)⟩

end Play

namespace Preview

/-- The list of a level has no end. -/
def Spins (width : Int) (l : Level) : Prop := ∀ fuel, listing width fuel l = .ok none

/-! ## One segment of a list -/

section Steps

variable {width : Int} {l l' : Level} {segment : Segment}

/-- A list ends where the level ends. -/
theorem listing_of_none (hnext : l.next = .ok (none, l')) (fuel : Nat) :
    listing width (fuel + 1) l = .ok (some ([], l')) := by
  simp [listing, hnext, bind, Except.bind, pure, Except.pure]

/-- A list ends with the segment that completes its width. -/
theorem listing_of_le (hnext : l.next = .ok (some segment, l'))
    (hbuilt : width ≤ l'.state.unitsBuilt) (fuel : Nat) :
    listing width (fuel + 1) l = .ok (some ([segment], l')) := by
  simp [listing, hnext, bind, Except.bind, pure, Except.pure, hbuilt]

/-- A segment that leaves the width incomplete is listed before the rest. -/
theorem listing_of_lt (hnext : l.next = .ok (some segment, l'))
    (hshort : (l'.state.unitsBuilt : Int) < width) (fuel : Nat) :
    listing width (fuel + 1) l = (listing width fuel l').map
      (·.map fun (others, last) => (segment :: others, last)) := by
  simp only [listing, hnext, bind, Except.bind, pure, Except.pure, Int.not_le.mpr hshort, if_false]
  cases listing width fuel l' <;> rfl

/-- A list fails where a segment cannot be handed out. -/
theorem listing_of_error {fault : Level.Fault} (hnext : l.next = .error fault) (fuel : Nat) :
    listing width (fuel + 1) l = .error fault := by
  simp [listing, hnext, bind, Except.bind]

/-- A level is listed without a fault. -/
theorem exists_listing_eq_ok {plan : LevelPlan} (hadmissible : plan.blueprint.bosses.Admissible)
    (hplan : l.plan = plan) (width : Int) (fuel : Nat) :
    ∃ listed?, listing width fuel l = .ok listed? := by
  induction fuel generalizing l with
  | zero => exact ⟨none, rfl⟩
  | succ fuel ih =>
    obtain ⟨answer, l', hnext, hhands⟩ := Level.exists_handsOut (hplan.symm ▸ hadmissible)
    cases answer with
    | none => exact ⟨_, listing_of_none hnext fuel⟩
    | some segment =>
      by_cases hbuilt : width ≤ l'.state.unitsBuilt
      · exact ⟨_, listing_of_le hnext hbuilt fuel⟩
      · obtain ⟨listed?, hrest⟩ := ih (hhands.plan_eq.trans hplan)
        exact ⟨_, by rw [listing_of_lt hnext (Int.not_le.mp hbuilt), hrest]; rfl⟩

/-- More calls than a list takes make no difference. -/
theorem listing_of_fuel_le {fuel more : Nat} {listed : List Segment × Level}
    (h : listing width fuel l = .ok (some listed)) (hle : fuel ≤ more) :
    listing width more l = .ok (some listed) := by
  induction fuel generalizing l more listed with
  | zero => cases h
  | succ fuel ih =>
    cases more with
    | zero => exact absurd hle (Nat.not_succ_le_zero _)
    | succ more =>
      match hnext : l.next with
      | .error fault => rw [listing_of_error hnext] at h; cases h
      | .ok (none, l') => rw [listing_of_none hnext] at h ⊢; exact h
      | .ok (some segment, l') =>
        by_cases hbuilt : width ≤ l'.state.unitsBuilt
        · rw [listing_of_le hnext hbuilt] at h ⊢
          exact h
        · rw [listing_of_lt hnext (Int.not_le.mp hbuilt)] at h ⊢
          match hrest : listing width fuel l' with
          | .error fault => rw [hrest] at h; cases h
          | .ok none => rw [hrest] at h; cases h
          | .ok (some others) =>
            rw [ih hrest (Nat.le_of_succ_le_succ hle), ← hrest]
            exact h

/-- Behind its list a level has the plan that it had before. -/
theorem plan_of_listing (hadmissible : l.plan.blueprint.bosses.Admissible) {fuel : Nat}
    {segments : List Segment} {last : Level}
    (h : listing width fuel l = .ok (some (segments, last))) : last.plan = l.plan := by
  induction fuel generalizing l segments with
  | zero => cases h
  | succ fuel ih =>
    obtain ⟨answer, l', hnext, hhands⟩ := Level.exists_handsOut hadmissible
    cases answer with
    | none =>
      rw [listing_of_none hnext] at h
      cases h
      exact hhands.plan_eq
    | some segment =>
      by_cases hbuilt : width ≤ l'.state.unitsBuilt
      · rw [listing_of_le hnext hbuilt] at h
        cases h
        exact hhands.plan_eq
      · rw [listing_of_lt hnext (Int.not_le.mp hbuilt)] at h
        match hrest : listing width fuel l' with
        | .error fault => rw [hrest] at h; cases h
        | .ok none => rw [hrest] at h; cases h
        | .ok (some (others, last')) =>
          rw [hrest] at h
          cases h
          exact (ih (hhands.plan_eq ▸ hadmissible) hrest).trans hhands.plan_eq

/-- The list of a level that ends has an end. -/
theorem not_spins_of_none (hnext : l.next = .ok (none, l')) : ¬ Spins width l := by
  intro h
  have := h 1
  rw [listing_of_none hnext] at this
  cases this

/-- A list has no end exactly if the next segment does not end it and what follows has none. -/
theorem spins_iff (hnext : l.next = .ok (some segment, l')) :
    Spins width l ↔ (l'.state.unitsBuilt : Int) < width ∧ Spins width l' := by
  constructor
  · intro h
    have hshort : (l'.state.unitsBuilt : Int) < width := by
      by_contra hnot
      have := h 1
      rw [listing_of_le hnext (Int.not_lt.mp hnot)] at this
      cases this
    refine ⟨hshort, fun fuel => ?_⟩
    have := h (fuel + 1)
    rw [listing_of_lt hnext hshort] at this
    match hrest : listing width fuel l' with
    | .error fault => rw [hrest] at this; cases this
    | .ok none => rfl
    | .ok (some segments) => rw [hrest] at this; cases this
  · rintro ⟨hshort, h⟩ fuel
    cases fuel with
    | zero => rfl
    | succ fuel => rw [listing_of_lt hnext hshort, h fuel]; rfl

end Steps

/-! ## Lists without an end -/

section Runs

variable {plan : LevelPlan} {history : List Segment} {p : Play} {width : Int}

/-- What is handed out adds its width to what is built, under the same plan. -/
theorem units_eq_of_handOut (hadmissible : plan.blueprint.bosses.Admissible)
    (hplan : p.level.plan = plan) {segments : List Segment} {p' : Play}
    (hhanded : p.handOut segments.length = .ok (segments.map some, p')) :
    p'.level.plan = plan ∧
      p'.level.state.unitsBuilt = p.level.state.unitsBuilt + Segment.span segments := by
  induction segments generalizing p with
  | nil =>
    cases hhanded
    exact ⟨hplan, rfl⟩
  | cons segment rest ih =>
    obtain ⟨answer, answers, p₁, hnext, hmore, heq⟩ := Play.handOut_succ_eq_ok_iff.mp hhanded
    obtain ⟨rfl, rfl⟩ := List.cons_eq_cons.mp heq
    obtain ⟨l₁, hl₁, rfl⟩ := Play.next_eq_ok_iff.mp hnext
    have hhands := Level.handsOut_of_next (hplan.symm ▸ hadmissible) hl₁
    obtain ⟨hplan', hunits⟩ := ih (hhands.plan_eq.trans hplan) hmore
    refine ⟨hplan', ?_⟩
    rw [hunits, hhands.units_eq, Segment.span, Nat.add_assoc]

/-- A list has no end exactly if the next segments do not end it and what follows has none. -/
theorem spins_iff_of_handOut (hadmissible : plan.blueprint.bosses.Admissible)
    (hplan : p.level.plan = plan) (hshort : (p.level.state.unitsBuilt : Int) < width)
    {segments : List Segment} {p' : Play}
    (hhanded : p.handOut segments.length = .ok (segments.map some, p')) :
    Spins width p.level ↔ (p'.level.state.unitsBuilt : Int) < width ∧ Spins width p'.level := by
  induction segments generalizing p with
  | nil =>
    cases hhanded
    exact (and_iff_right hshort).symm
  | cons segment rest ih =>
    obtain ⟨answer, answers, p₁, hnext, hmore, heq⟩ := Play.handOut_succ_eq_ok_iff.mp hhanded
    obtain ⟨rfl, rfl⟩ := List.cons_eq_cons.mp heq
    obtain ⟨l₁, hl₁, rfl⟩ := Play.next_eq_ok_iff.mp hnext
    have hplan₁ := (Level.handsOut_of_next (hplan.symm ▸ hadmissible) hl₁).plan_eq.trans hplan
    rw [spins_iff hl₁]
    constructor
    · rintro ⟨hshort₁, h⟩
      exact (ih hplan₁ hshort₁ hmore).mp h
    · rintro ⟨hshort', h⟩
      -- the units only grow
      have hunits := (units_eq_of_handOut hadmissible hplan₁ hmore).2
      have hshort₁ : (l₁.state.unitsBuilt : Int) < width := by
        dsimp only at hunits
        omega
      exact ⟨hshort₁, (ih hplan₁ hshort₁ hmore).mpr ⟨hshort', h⟩⟩

/-- The list of a play that idles has no end. -/
theorem spins_of_idles (hadmissible : plan.blueprint.bosses.Admissible)
    (hplan : p.level.plan = plan) (hshort : (p.level.state.unitsBuilt : Int) < width)
    (hidles : p.Idles) : Spins width p.level := by
  intro fuel
  induction fuel generalizing p with
  | zero => rfl
  | succ fuel ih =>
    obtain ⟨segment, p', hnext, hidle, hidles'⟩ := hidles.next
    obtain ⟨l', hl', rfl⟩ := Play.next_eq_ok_iff.mp hnext
    have hhands := Level.handsOut_of_next (hplan.symm ▸ hadmissible) hl'
    have hsame : l'.state.unitsBuilt = p.level.state.unitsBuilt := by
      rw [hhands.units_eq, hidle, Nat.add_zero]
    have hshort' : (l'.state.unitsBuilt : Int) < width := by rwa [hsame]
    rw [listing_of_lt hl' hshort', ih (p := { p with level := l' }) (hhands.plan_eq.trans hplan)
      hshort' hidles']
    rfl

/-- A list that has no end comes to a play that idles: each segment with width takes it nearer to
its width. -/
theorem exists_idles_of_spins (hadmissible : plan.blueprint.bosses.Admissible)
    (hreach : Play.Reachable plan history p) (hshort : (p.level.state.unitsBuilt : Int) < width)
    (hspins : Spins width p.level) :
    ∃ (segments : List Segment) (p' : Play),
      p.handOut segments.length = .ok (segments.map some, p') ∧
        (p'.level.state.unitsBuilt : Int) < width ∧ p'.Idles := by
  -- along what is missing
  generalize hmissing : (width - p.level.state.unitsBuilt).toNat = missing
  induction missing using Nat.strong_induction_on generalizing history p with
  | _ missing ih =>
    by_cases hidles : p.Idles
    · exact ⟨[], p, rfl, hshort, hidles⟩
    · rw [Play.Idles, not_forall] at hidles
      obtain ⟨times, hmoves⟩ := hidles
      obtain ⟨segments, p₁, hlength, hhanded, hreach₁, hend⟩ :=
        Play.exists_handOut hadmissible hreach times
      have hplan := (Level.onCourse_of_reachable hadmissible hreach).1
      have hunits := (units_eq_of_handOut hadmissible hplan hhanded).2
      obtain ⟨hshort₁, hspins₁⟩ :=
        (spins_iff_of_handOut hadmissible hplan hshort hhanded).mp hspins
      -- the level does not end, so one of the segments has width
      have hfull : segments.length = times := by
        by_contra hne
        obtain ⟨l', hl', -⟩ := Play.next_eq_ok_iff.mp (hend (by omega))
        exact not_spins_of_none hl' hspins₁
      have hwidth : Segment.span segments ≠ 0 := by
        intro hspan
        refine hmoves ⟨segments, p₁, hfull ▸ hhanded, fun s hs => ?_⟩
        exact Nat.eq_zero_of_le_zero (hspan ▸ Segment.totalWidth_le_span hs)
      obtain ⟨others, p₂, hhanded₂, hshort₂, hidles₂⟩ :=
        ih _ (by omega) hreach₁ hshort₁ hspins₁ rfl
      refine ⟨segments ++ others, p₂, ?_, hshort₂, hidles₂⟩
      rw [List.length_append, List.map_append]
      exact Play.handOut_append hhanded hhanded₂

/-- A list has no end exactly where the level idles before the width of the list. -/
theorem spins_start_iff (hadmissible : plan.blueprint.bosses.Admissible) :
    Spins width (Level.start plan) ↔ plan.IdlesBelow width := by
  have hnext := Level.next_start plan
  have hfloor := Play.next_eq_ok_iff (p := Play.start plan none).mpr ⟨_, hnext, rfl⟩
  have hstart : Play.Reachable plan [] (Play.start plan none) := .start none
  have hfresh : (Play.start plan none).level.state.unitsBuilt = 0 := rfl
  constructor
  · intro h
    obtain ⟨hshort, hspins⟩ := (spins_iff hnext).mp h
    obtain ⟨segments, p, hhanded, hshort', hidles⟩ :=
      exists_idles_of_spins hadmissible (hstart.next hfloor) hshort hspins
    have hall : (Play.start plan none).handOut
        ((Level.start plan).handOutFloor.1 :: segments).length =
          .ok (((Level.start plan).handOutFloor.1 :: segments).map some, p) :=
      Play.handOut_succ_eq_ok_iff.mpr ⟨_, _, _, hfloor, hhanded, rfl⟩
    have hunits := (units_eq_of_handOut hadmissible rfl hall).2
    rw [hunits, hfresh, Nat.zero_add] at hshort'
    exact ⟨_, p, hall, hshort', hidles⟩
  · rintro ⟨segments, p, hhanded, hspan, hidles⟩
    obtain ⟨hplan, hunits⟩ := units_eq_of_handOut hadmissible rfl hhanded
    rw [hfresh, Nat.zero_add] at hunits
    have hshort : (p.level.state.unitsBuilt : Int) < width := by rwa [hunits]
    have hpos : (0 : Int) < width := by omega
    exact (spins_iff_of_handOut (p := Play.start plan none) hadmissible rfl hpos hhanded).mpr
      ⟨hshort, spins_of_idles hadmissible hplan hshort hidles⟩

/-- An endless level without width to offer idles behind its spawn floor. -/
theorem idles_of_not_offersWidth (hadmissible : plan.blueprint.bosses.Admissible)
    (hendless : plan.blueprint.Endless) (hbarren : ¬ plan.blueprint.OffersWidth)
    (hplan : p.level.plan = plan) (hunits : p.level.state.unitsBuilt ≠ 0)
    (hmark : p.level.state.lastUnitsBuilt = p.level.state.unitsBuilt) : p.Idles := by
  intro times
  induction times generalizing p with
  | zero => exact ⟨[], p, rfl, nofun⟩
  | succ times ih =>
    subst hplan
    obtain ⟨answer, l', hnext, hhands⟩ := Level.exists_handsOut hadmissible
    have hnext' := Play.next_eq_ok_iff.mpr ⟨l', hnext, rfl⟩
    cases hhands with
    | floor hfresh => exact absurd hfresh hunits
    | exhausted _ hend => exact absurd hendless (Level.hasNext_eq_false_iff.mp hend).1
    | wall _ _ hdue =>
      rw [Level.due?, Level.isEndless_iff.mpr hendless] at hdue
      split at hdue <;> cases hdue
    | arena _ _ hwins hreached =>
      -- nothing was built since the last look at the boss rules
      have := hwins.above
      rw [hmark] at this
      omega
    | @template place index gap template key _ _ _ hindex _ hgap =>
      have hwidth : template.width = 0 := by
        by_contra hne
        exact hbarren (.inl ⟨template, Array.mem_of_getElem? hindex, Nat.pos_of_ne_zero hne⟩)
      have hgapless : p.level.has .doGaps ≠ true :=
        fun hgaps => hbarren (.inr ⟨hgaps, hendless.2⟩)
      rw [Level.IsGap, if_neg hgapless] at hgap
      obtain ⟨segments, p', hhanded, hidle⟩ := ih
        (p := { p with level := p.level.afterTemplate place (template.width + gap) key })
        rfl (by simp [Level.afterTemplate, hunits]) (by simp [Level.afterTemplate, hwidth, hgap])
      refine ⟨p.level.regular index template gap :: segments, p',
        Play.handOut_succ_eq_ok_iff.mpr ⟨_, _, _, hnext', hhanded, rfl⟩, ?_⟩
      rintro s (_ | ⟨_, hs⟩)
      · exact Nat.add_eq_zero_iff.mpr ⟨hwidth, hgap⟩
      · exact hidle s hs

/-- An endless level without width to offer idles before every width beyond its floor. -/
theorem idlesBelow_of_not_offersWidth (hadmissible : plan.blueprint.bosses.Admissible)
    (hendless : plan.blueprint.Endless) (hbarren : ¬ plan.blueprint.OffersWidth)
    (hwidth : World.spawnFloorWidth < width) : plan.IdlesBelow width := by
  have hfloor := Play.next_eq_ok_iff (p := Play.start plan none).mpr
    ⟨_, Level.next_start plan, rfl⟩
  refine ⟨[(Level.start plan).handOutFloor.1], _,
    Play.handOut_succ_eq_ok_iff.mpr ⟨_, _, _, hfloor, rfl, rfl⟩, hwidth,
    idles_of_not_offersWidth hadmissible hendless hbarren rfl ?_ rfl⟩
  exact Nat.succ_ne_zero _

/-! ## Lists with an end -/

/-- With a column missing, each segment with width pays for itself and for as many without as there
are templates; more of these do not come in a row. -/
theorem exists_listing_of_reachable (hadmissible : plan.blueprint.bosses.Admissible)
    (hmoves : plan.blueprint.Endless → plan.blueprint.OffersWidth ∧ ¬ plan.blueprint.IsGamble)
    (hreach : Play.Reachable plan history p) {fuel idle missing : Nat}
    (hidle : EndsIdle history idle) (hpos : 0 < missing)
    (hmissing : width ≤ p.level.state.unitsBuilt + missing)
    (hfuel : missing * (plan.blueprint.count + 1) ≤ fuel + idle) :
    ∃ segments last, listing width fuel p.level = .ok (some (segments, last)) := by
  have hcount := hreach.endsIdle_le_count hadmissible hmoves hidle
  induction fuel generalizing history p idle missing with
  | zero =>
    have : plan.blueprint.count + 1 ≤ missing * (plan.blueprint.count + 1) :=
      Nat.le_mul_of_pos_left _ hpos
    omega
  | succ fuel ih =>
    have hplan := (Level.onCourse_of_reachable hadmissible hreach).1
    obtain ⟨answer, p', hnext, -⟩ := hreach.exists_next hadmissible
    have hreach' := hreach.next hnext
    obtain ⟨l', hl', rfl⟩ := Play.next_eq_ok_iff.mp hnext
    cases answer with
    | none => exact ⟨[], l', listing_of_none hl' fuel⟩
    | some segment =>
      by_cases hbuilt : width ≤ l'.state.unitsBuilt
      · exact ⟨[segment], l', listing_of_le hl' hbuilt fuel⟩
      · have hunits := (Level.handsOut_of_next (hplan.symm ▸ hadmissible) hl').units_eq
        rw [listing_of_lt hl' (Int.not_le.mp hbuilt)]
        suffices h : ∃ segments last, listing width fuel l' = .ok (some (segments, last)) by
          obtain ⟨segments, last, h⟩ := h
          exact ⟨segment :: segments, last, by rw [h]; rfl⟩
        by_cases hzero : segment.totalWidth = 0
        · have hidle' := hidle.concat hzero
          exact ih hreach' hidle' hpos (by dsimp only; omega) (by omega)
            (hreach'.endsIdle_le_count hadmissible hmoves hidle')
        · obtain ⟨missing, rfl⟩ := Nat.exists_eq_add_of_lt hpos
          rw [Nat.zero_add, Nat.add_one_mul] at hfuel
          have hleft : missing ≠ 0 := by omega
          have hidle' := Segment.endsIdle_zero (history ++ [segment])
          exact ih hreach' hidle' (Nat.pos_of_ne_zero hleft) (by dsimp only; omega) (by omega)
            (Nat.zero_le _)

/-- A level that is not endless, has no more than its floor to build, or offers width and leaves
nothing to chance, is listed within so many calls. -/
theorem exists_listing (hadmissible : plan.blueprint.bosses.Admissible)
    (hmoves : plan.blueprint.Endless → width ≤ World.spawnFloorWidth ∨
      plan.blueprint.OffersWidth ∧ ¬ plan.blueprint.IsGamble) :
    ∃ segments last, listing width ((width.toNat + 1) * (plan.blueprint.count + 1))
      (Level.start plan) = .ok (some (segments, last)) := by
  by_cases hfloor : width ≤ World.spawnFloorWidth
  · obtain ⟨calls, hcalls⟩ := Nat.exists_eq_succ_of_ne_zero
      (Nat.mul_ne_zero width.toNat.succ_ne_zero plan.blueprint.count.succ_ne_zero)
    rw [hcalls]
    exact ⟨_, _, listing_of_le (Level.next_start plan) hfloor calls⟩
  · exact exists_listing_of_reachable (p := Play.start plan none) hadmissible
      (fun hendless => (hmoves hendless).resolve_left hfloor) (.start none)
      (Segment.endsIdle_zero _) (Nat.succ_pos _) (by omega) le_rfl

end Runs

/-! ## The report -/

section Report

variable {plan : LevelPlan} {width : Int} {fuel : Nat} (c : Catalog) (memory : Nat)

/-- Rewinding a play of the same plan and spawner leaves nothing of what happened to it. -/
theorem rewind_eq_start {s : Spawner} {p : Play} (hplan : p.level.plan = plan)
    (hspawner : p.spawner = (Play.start plan (some s)).spawner) :
    p.rewind = Play.start plan (some s) := by
  rw [Play.rewind, hplan, hspawner]
  rfl

/-- A report with a list is the report without it, behind the list. -/
theorem levelReport_of_listing {segments : List Segment} {last : Level}
    (hlisting : listing width fuel (Level.start plan) = .ok (some (segments, last)))
    (hplan : last.plan = plan) :
    levelReport c plan width true memory fuel =
      (levelReport c plan width false memory fuel).map fun report =>
        { report with
          output := segments.map (fun segment => s!"  {segment.describe}") ++ report.output } := by
  have hstart : (Play.start plan (some Spawner.create)).level = Level.start plan := rfl
  have hrewind : { Play.start plan (some Spawner.create) with level := last }.rewind =
      Play.start plan (some Spawner.create) := rewind_eq_start hplan rfl
  simp only [levelReport, hstart, hlisting, hrewind, bind, Except.bind, pure, Except.pure,
    Except.mapError, if_true, Bool.false_eq_true, if_false]
  cases (Play.start plan (some Spawner.create)).generate width with
  | error fault => rfl
  | ok done =>
    dsimp only
    cases Picture.draw memory
        ((done.play.spawner.getD Spawner.create).elements.toList.map Element.origin)
        (done.play.spawner.getD Spawner.create).worldHeight
        (done.play.level.state.frontier + 1) with
    | error fault => rfl
    | ok picture => simp [Except.map]

/-- Of a list without an end no report comes. -/
theorem levelReport_of_spins (hspins : Spins width (Level.start plan)) :
    levelReport c plan width true memory fuel = .error .endlessListing := by
  have hstart : (Play.start plan (some Spawner.create)).level = Level.start plan := rfl
  simp [levelReport, hstart, hspins fuel, bind, Except.bind, Except.mapError]

/-- A level is built without a fault, so only its picture may be refused. -/
theorem levelReport_ne_level (hadmissible : plan.blueprint.bosses.Admissible)
    (fault : Level.Fault) : levelReport c plan width false memory fuel ≠ .error (.level fault) := by
  obtain ⟨done, hdone, -⟩ := Play.exists_generate_ending
    (p := Play.start plan (some Spawner.create)) hadmissible rfl width
  simp only [levelReport, hdone, bind, Except.bind, pure, Except.pure, Except.mapError,
    Bool.false_eq_true, if_false]
  cases Picture.draw memory
      ((done.play.spawner.getD Spawner.create).elements.toList.map Element.origin)
      (done.play.spawner.getD Spawner.create).worldHeight (done.play.level.state.frontier + 1) with
  | error fault => nofun
  | ok picture => nofun

/-- The list of a level ends, and the report comes to its output behind it, exactly where the level
does not idle before the width of the list. It takes at most so many calls where the level ends, has
no more than its floor to build, or offers width and leaves nothing to chance; and an endless level
without width to offer has no end of it. -/
theorem listing_ends (hfilled : plan.blueprint.Filled) (width : Int) :
    ((∃ segments last enough, ∀ fuel, enough ≤ fuel →
        listing width fuel (Level.start plan) = .ok (some (segments, last)) ∧
        ∀ c memory, levelReport c plan width true memory fuel =
            (levelReport c plan width false memory fuel).map (fun report =>
              { report with
                output := segments.map (fun segment => s!"  {segment.describe}") ++
                  report.output }) ∧
          ∀ fault, levelReport c plan width false memory fuel ≠ .error (.level fault)) ↔
      ¬ plan.IdlesBelow width) ∧
    ((plan.blueprint.Endless → width ≤ World.spawnFloorWidth ∨
        plan.blueprint.OffersWidth ∧ ¬ plan.blueprint.IsGamble) →
      ∃ segments last, listing width ((width.toNat + 1) * (plan.blueprint.count + 1))
        (Level.start plan) = .ok (some (segments, last))) ∧
    (plan.blueprint.Endless → ¬ plan.blueprint.OffersWidth → World.spawnFloorWidth < width →
      plan.IdlesBelow width) := by
  have hadmissible := hfilled.admissible
  refine ⟨?_, exists_listing hadmissible, fun hendless hbarren hwidth =>
    idlesBelow_of_not_offersWidth hadmissible hendless hbarren hwidth⟩
  rw [← spins_start_iff hadmissible]
  constructor
  · rintro ⟨segments, last, enough, hends⟩ hspins
    have := (hends enough le_rfl).1
    rw [hspins enough] at this
    cases this
  · intro hnot
    obtain ⟨enough, hends⟩ := not_forall.mp hnot
    obtain ⟨listed?, hlisting⟩ :=
      exists_listing_eq_ok (l := Level.start plan) hadmissible rfl width enough
    cases listed? with
    | none => exact absurd hlisting hends
    | some listed =>
      obtain ⟨segments, last⟩ := listed
      refine ⟨segments, last, enough, fun fuel hle => ?_⟩
      have hmore := listing_of_fuel_le hlisting hle
      exact ⟨hmore, fun c memory =>
        ⟨levelReport_of_listing c memory hmore (plan_of_listing hadmissible hmore),
          levelReport_ne_level c memory hadmissible⟩⟩

/-- Eighty columns of the brook are listed within as many calls as the bound says. -/
theorem listing_ends_brook :
    LevelPlan.brook.blueprint.Filled ∧
      ∃ segments last, listing 80 243 (Level.start .brook) = .ok (some (segments, last)) :=
  ⟨LevelPlan.filled_brook, (listing_ends LevelPlan.filled_brook 80).2.1 fun _ =>
    .inr ⟨LevelPlan.offersWidth_brook, LevelPlan.not_isGamble_brook⟩⟩

/-- The list of an endless level of one empty block has no end, and no report comes of it. -/
theorem listing_void :
    LevelPlan.void.blueprint.Filled ∧ LevelPlan.void.blueprint.Endless ∧
      ∀ fuel, listing 80 fuel (Level.start .void) = .ok none ∧
        ∀ c memory, levelReport c .void 80 true memory fuel = .error .endlessListing := by
  have hadmissible := LevelPlan.filled_void.admissible
  have hendless : LevelPlan.void.blueprint.Endless := ⟨rfl, by decide⟩
  have hspins : Spins 80 (Level.start .void) := (spins_start_iff hadmissible).mpr
    (idlesBelow_of_not_offersWidth hadmissible hendless LevelPlan.not_offersWidth_void (by decide))
  exact ⟨LevelPlan.filled_void, hendless, fun fuel =>
    ⟨hspins fuel, fun c memory => levelReport_of_spins c memory hspins⟩⟩

end Report

end Preview

end LevelForge
