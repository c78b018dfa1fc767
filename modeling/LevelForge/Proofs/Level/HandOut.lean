import LevelForge.Level
import LevelForge.Proofs.Boss.Crossing

/-!
# What a level hands out

`Level.next` decides between five kinds of steps. Here the decision is made once: `HandsOut` lists
the five with the conditions under which each is taken, and everything that is proved about runs of
a level goes through it.

* `exists_handsOut`: a level with admissible boss rules always answers, by one of the five steps.
* `handsOut_of_next`: every answer is one of the five steps.
-/

namespace LevelForge.Level

open Boss (Rule)
open Boss.Schedule (Wins Crosses)

/-- A template of the level with a gap behind it. -/
def regular (l : Level) (index : Nat) (template : Template) (gap : Nat) : Segment :=
  { template, aliases := l.plan.blueprint.aliases, kind := .regular, index := some (index : Int),
    gap }

/-- The level once a template of the given total width has been handed out, the one at `place`
being due. -/
def afterTemplate (l : Level) (place width : Nat) (key : Random.Key) : Level :=
  { l with state :=
    { l.state with
      selection := key
      cursor := place + 1
      lastUnitsBuilt := l.state.unitsBuilt
      unitsBuilt := l.state.unitsBuilt + width } }

/-- The width of a gap: one or two tiles when gaps are switched on, and otherwise none. -/
def IsGap (l : Level) (gap : Nat) : Prop :=
  if l.has .doGaps then gap = 1 ∨ gap = 2 else gap = 0

/-- The five steps of a level: what is handed out and the level afterwards. -/
inductive HandsOut (l : Level) : Option Segment → Level → Prop
  -- nothing was handed out before
  | floor (hfresh : l.state.unitsBuilt = 0) :
      HandsOut l (some l.handOutFloor.1) l.handOutFloor.2
  -- the end wall was handed out before
  | exhausted (hunits : l.state.unitsBuilt ≠ 0) (hend : l.hasNext = false) :
      HandsOut l none l
  -- all templates of a finite level are behind
  | wall (hunits : l.state.unitsBuilt ≠ 0) (hnext : l.hasNext = true) (hdue : l.due? = none) :
      HandsOut l (some l.handOutEnd.1) l.handOutEnd.2
  -- a template is due, but the progress since the last look crosses a threshold
  | arena {place : Nat} {rule : Rule} {t : Int} (hunits : l.state.unitsBuilt ≠ 0)
      (hdue : l.due? = some place)
      (hwins : Wins l.plan.blueprint.bosses.rules (progress l.state.lastUnitsBuilt) rule t)
      (hreached : t ≤ progress l.state.unitsBuilt) :
      HandsOut l (some (l.handOutArena rule.symbol).1) (l.handOutArena rule.symbol).2
  -- a template is due, and no threshold is crossed
  | template {place index gap : Nat} {template : Template} {key : Random.Key}
      (hunits : l.state.unitsBuilt ≠ 0) (hdue : l.due? = some place)
      (hquiet : ¬ Crosses l.plan.blueprint.bosses.rules (progress l.state.lastUnitsBuilt)
        (progress l.state.unitsBuilt))
      (hindex : l.plan.blueprint.templates[index]? = some template)
      (hplace : l.has .shuffle = false → index = place) (hgap : l.IsGap gap) :
      HandsOut l (some (l.regular index template gap))
        (l.afterTemplate place (template.width + gap) key)

theorem nextGap_spec (l : Level) :
    ∃ gap key, l.nextGap = (gap, { l with state := { l.state with selection := key } }) ∧
      l.IsGap gap := by
  unfold nextGap IsGap
  split
  · refine ⟨_, _, rfl, ?_⟩
    have hlt := Random.Key.below_lt ((l.state.key .selection).child 1) Nat.two_pos
    omega
  · exact ⟨0, l.state.selection, rfl, rfl⟩

theorem nextIndex_spec (l : Level) {place : Nat} (hplace : place < l.count) :
    ∃ index key,
      l.nextIndex place = (index, { l with state := { l.state with selection := key } }) ∧
        index < l.count ∧ (l.has .shuffle = false → index = place) := by
  unfold nextIndex
  split
  · next hshuffle =>
    refine ⟨_, _, rfl, Random.Key.below_lt _ (Nat.zero_lt_of_lt hplace), ?_⟩
    intro hordered
    rw [hshuffle] at hordered
    cases hordered
  · exact ⟨place, l.state.selection, rfl, hplace, fun _ => rfl⟩

/-- A place in the round has a template, so one is handed out when it is due. -/
theorem handOutTemplate_spec (l : Level) {place : Nat} (hplace : place < l.count) :
    ∃ index template gap key,
      l.handOutTemplate place = .ok (l.regular index template gap,
        l.afterTemplate place (template.width + gap) key) ∧
      l.plan.blueprint.templates[index]? = some template ∧
      (l.has .shuffle = false → index = place) ∧ l.IsGap gap := by
  obtain ⟨index, key, hindex, hlt, hordered⟩ := l.nextIndex_spec hplace
  obtain ⟨gap, key', hgap, hisGap⟩ :=
    nextGap_spec { l with state := { l.state with selection := key } }
  have htemplate : l.plan.blueprint.templates[index]? = some l.plan.blueprint.templates[index] :=
    Array.getElem?_eq_getElem hlt
  have hsegment : l.plan.blueprint.segment? index =
      some (l.regular index l.plan.blueprint.templates[index] 0) := by
    simp [Blueprint.segment?, Blueprint.template?, regular, htemplate]
  refine ⟨index, _, gap, key', ?_, htemplate, hordered, hisGap⟩
  -- a gap that was drawn is never negative, so it is not refused
  have hwidth : ¬ ((gap : Int) < 0) := by omega
  simp [handOutTemplate, hindex, hsegment, hgap, Segment.withGap, hwidth, regular, afterTemplate,
    Segment.totalWidth]

/-- A place that is due is one of the round. -/
theorem lt_count_of_due {l : Level} {place : Nat} (h : l.due? = some place) : place < l.count := by
  unfold due? at h
  split at h
  · next hlt => cases h; exact hlt
  · split at h
    · next hendless =>
      cases h
      simp only [isEndless, Bool.and_eq_true, decide_eq_true_eq] at hendless
      exact hendless.2
    · cases h

theorem hasNext_of_due {l : Level} {place : Nat} (h : l.due? = some place) :
    l.hasNext = true := by
  unfold due? at h
  unfold hasNext
  split at h
  · next hlt => simp [hlt.le]
  · split at h
    · next hendless => simp [hendless]
    · cases h

/-- A level with admissible boss rules always answers, by one of the five steps. -/
theorem exists_handsOut {l : Level} (hadmissible : l.plan.blueprint.bosses.Admissible) :
    ∃ answer l', l.next = .ok (answer, l') ∧ l.HandsOut answer l' := by
  -- the questions are asked in the order in which `next` asks them
  by_cases hunits : l.state.unitsBuilt = 0
  · exact ⟨_, _, by simp [next, hunits], .floor hunits⟩
  cases hnext : l.hasNext with
  | false => exact ⟨_, _, by simp [next, hunits, hnext], .exhausted hunits hnext⟩
  | true =>
    cases hdue : l.due? with
    | none => exact ⟨_, _, by simp [next, hunits, hnext, hdue], .wall hunits hnext hdue⟩
    | some place =>
      obtain ⟨winner?, hboss, hsome, hnone⟩ :=
        Boss.Schedule.next?_spec hadmissible (progress l.state.lastUnitsBuilt)
          (progress l.state.unitsBuilt)
      cases winner? with
      | some rule =>
        obtain ⟨t, hwins, hreached⟩ := hsome rule rfl
        exact ⟨_, _, by simp [next, hunits, hnext, hdue, hboss], .arena hunits hdue hwins hreached⟩
      | none =>
        obtain ⟨index, template, gap, key, heq, hindex, hplace, hgap⟩ :=
          l.handOutTemplate_spec (lt_count_of_due hdue)
        exact ⟨_, l.afterTemplate place (template.width + gap) key,
          by simp [next, hunits, hnext, hdue, hboss, heq],
          .template hunits hdue (hnone.mp rfl) hindex hplace hgap⟩

/-- Every answer of a level with admissible boss rules is one of the five steps. -/
theorem handsOut_of_next {l l' : Level} {answer : Option Segment}
    (hadmissible : l.plan.blueprint.bosses.Admissible) (h : l.next = .ok (answer, l')) :
    l.HandsOut answer l' := by
  obtain ⟨answer', l'', hnext, hstep⟩ := exists_handsOut hadmissible
  rw [h] at hnext
  cases hnext
  exact hstep

/-- The first step of a level hands out its floor. -/
theorem HandsOut.eq_floor {l l' : Level} {answer : Option Segment} (h : l.HandsOut answer l')
    (hfresh : l.state.unitsBuilt = 0) :
    answer = some l.handOutFloor.1 ∧ l' = l.handOutFloor.2 := by
  cases h with
  | floor => exact ⟨rfl, rfl⟩
  | exhausted hunits => exact absurd hfresh hunits
  | wall hunits => exact absurd hfresh hunits
  | arena hunits => exact absurd hfresh hunits
  | template hunits => exact absurd hfresh hunits

/-- A level hands out its floor first. -/
theorem next_start (plan : LevelPlan) :
    (start plan).next = .ok (some (start plan).handOutFloor.1, (start plan).handOutFloor.2) := rfl

theorem HandsOut.plan_eq {l l' : Level} {answer : Option Segment} (h : l.HandsOut answer l') :
    l'.plan = l.plan := by
  cases h <;> rfl

/-- Handing out a segment adds its width to the units. -/
theorem HandsOut.units_eq {l l' : Level} {segment : Segment}
    (h : l.HandsOut (some segment) l') :
    l'.state.unitsBuilt = l.state.unitsBuilt + segment.totalWidth := by
  cases h with
  | floor hfresh =>
    rw [hfresh, Nat.zero_add]
    rfl
  | wall => rfl
  | arena => rfl
  | template => rfl

/-- Handing out builds nothing and strews no coins. -/
theorem HandsOut.frontier_eq {l l' : Level} {answer : Option Segment} (h : l.HandsOut answer l') :
    l'.state.frontier = l.state.frontier := by
  cases h <;> rfl

end LevelForge.Level
