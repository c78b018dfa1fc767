import LevelForge.Level

/-!
# What the next segment depends on

The next segment follows from the templates, the boss rules and three settings of a blueprint, and
from where the level stands in its sequence. Neither how far the level is built, nor the stream of
its coins, nor any other setting plays a part; aliases are only handed on with the segment.

* `Level.recast`: the level of another plan at the same point of the sequence.
* `Level.next_recast`: a recast level hands out the same, under its own aliases, and stays recast.
* `Level.next_congr`: levels of one plan at one point hand out the same.
-/

namespace LevelForge

namespace Segment

/-- The segment under other aliases. -/
def withAliases (s : Segment) (aliases : Table String) : Segment := { s with aliases }

/-- Aliases do not change the width of a segment. -/
@[simp]
theorem totalWidth_withAliases (s : Segment) (aliases : Table String) :
    (s.withAliases aliases).totalWidth = s.totalWidth := rfl

/-- A gap is left behind a segment under any aliases. -/
theorem withGap_withAliases (s : Segment) (aliases : Table String) (width : Int) :
    (s.withAliases aliases).withGap width = (s.withGap width).map (·.withAliases aliases) := by
  unfold withGap
  split <;> rfl

end Segment

/-- Two blueprints that agree on everything the sequence of a level depends on. -/
structure Blueprint.SameSequence (a b : Blueprint) : Prop where
  templates : a.templates = b.templates
  rules : a.bosses.rules = b.bosses.rules
  infinite : a.has .infinite = b.has .infinite
  shuffle : a.has .shuffle = b.has .shuffle
  doGaps : a.has .doGaps = b.has .doGaps

namespace Blueprint.SameSequence

/-- A blueprint agrees with itself. -/
theorem refl (b : Blueprint) : b.SameSequence b := ⟨rfl, rfl, rfl, rfl, rfl⟩

variable {a b : Blueprint}

/-- The templates are the same, so a segment differs by the aliases that it bears only. -/
theorem segment?_eq (h : a.SameSequence b) (index : Int) :
    a.segment? index = (b.segment? index).map (·.withAliases a.aliases) := by
  unfold segment? template? count
  rw [h.templates, Option.map_map]
  rfl

/-- The boss rules are the same, and so is the arena that is due. -/
theorem next?_eq (h : a.SameSequence b) (last units : Int) :
    a.bosses.next? last units = b.bosses.next? last units := by
  unfold Boss.Schedule.next? Boss.Schedule.firstCrossing
  rw [h.rules]

end Blueprint.SameSequence

/-- Two states at the same point of the sequence. -/
structure LevelState.SamePoint (s s' : LevelState) : Prop where
  units : s.unitsBuilt = s'.unitsBuilt
  mark : s.lastUnitsBuilt = s'.lastUnitsBuilt
  cursor : s.cursor = s'.cursor
  selection : s.selection = s'.selection

/-- A state is at its own point of the sequence. -/
theorem LevelState.SamePoint.refl (s : LevelState) : s.SamePoint s := ⟨rfl, rfl, rfl, rfl⟩

theorem LevelState.SamePoint.symm {s s' : LevelState} (h : s.SamePoint s') : s'.SamePoint s :=
  ⟨h.units.symm, h.mark.symm, h.cursor.symm, h.selection.symm⟩

theorem LevelState.SamePoint.trans {s s' s'' : LevelState} (h : s.SamePoint s')
    (h' : s'.SamePoint s'') : s.SamePoint s'' :=
  ⟨h.units.trans h'.units, h.mark.trans h'.mark, h.cursor.trans h'.cursor,
    h.selection.trans h'.selection⟩

namespace Level

/-- The level of another plan at the same point of the sequence, with a frontier and streams of its
own. -/
def recast (l : Level) (plan : LevelPlan) (frontier : Nat) (coins elements : Random.Key) :
    Level where
  plan
  state := { l.state with frontier, coins, elements }

section Recast

variable {l : Level} {plan : LevelPlan} (h : plan.blueprint.SameSequence l.plan.blueprint)
  (frontier : Nat) (coins elements : Random.Key)

include h

/-- A recast level has the same number of templates. -/
theorem count_recast : (l.recast plan frontier coins elements).count = l.count :=
  congrArg Array.size h.templates

/-- A recast level is endless if the level is. -/
theorem isEndless_recast : (l.recast plan frontier coins elements).isEndless = l.isEndless := by
  rw [isEndless, isEndless, count_recast h]
  exact congrArg (· && _) h.infinite

/-- A recast level has a next segment if the level has one. -/
theorem hasNext_recast : (l.recast plan frontier coins elements).hasNext = l.hasNext := by
  rw [hasNext, hasNext, isEndless_recast h, count_recast h]
  rfl

/-- The same place of the template order is due in a recast level. -/
theorem due?_recast : (l.recast plan frontier coins elements).due? = l.due? := by
  rw [due?, due?, isEndless_recast h, count_recast h]
  rfl

/-- A recast level ends with the same wall, under its own aliases. -/
theorem handOutEnd_recast : (l.recast plan frontier coins elements).handOutEnd =
    (l.handOutEnd.1.withAliases plan.blueprint.aliases,
      l.handOutEnd.2.recast plan frontier coins elements) := by
  rw [handOutEnd, count_recast h]
  rfl

/-- A recast level draws the same gap and stays recast. -/
theorem nextGap_recast : (l.recast plan frontier coins elements).nextGap =
    (l.nextGap.1, l.nextGap.2.recast plan frontier coins elements) := by
  have hgaps : (l.recast plan frontier coins elements).has .doGaps = l.has .doGaps := h.doGaps
  unfold nextGap
  rw [hgaps]
  split <;> rfl

/-- A recast level chooses the same template and stays recast. -/
theorem nextIndex_recast (place : Nat) : (l.recast plan frontier coins elements).nextIndex place =
    ((l.nextIndex place).1, (l.nextIndex place).2.recast plan frontier coins elements) := by
  have hshuffle : (l.recast plan frontier coins elements).has .shuffle = l.has .shuffle := h.shuffle
  unfold nextIndex
  rw [hshuffle, count_recast h]
  split <;> rfl

/-- A recast level hands out the same block, under its own aliases, and stays recast. -/
theorem handOutTemplate_recast (place : Nat) :
    (l.recast plan frontier coins elements).handOutTemplate place =
      (l.handOutTemplate place).map fun handed =>
        (handed.1.withAliases plan.blueprint.aliases,
          handed.2.recast plan frontier coins elements) := by
  unfold handOutTemplate
  rw [nextIndex_recast h]
  dsimp only
  -- the same template is missing, or the same one is there under other aliases
  have hsegment := h.segment?_eq (l.nextIndex place).1
  rw [show (l.recast plan frontier coins elements).plan = plan from rfl, hsegment]
  cases l.plan.blueprint.segment? (l.nextIndex place).1 with
  | none => rfl
  | some segment =>
    have hplan : (l.nextIndex place).2.plan = l.plan := by unfold nextIndex; split <;> rfl
    simp only [Option.map_some]
    rw [nextGap_recast (hplan ▸ h)]
    dsimp only
    rw [Segment.withGap_withAliases]
    cases segment.withGap (l.nextIndex place).2.nextGap.1 <;> rfl

/-- A recast level hands out the same under its own aliases, and stays recast. -/
theorem next_recast : (l.recast plan frontier coins elements).next =
    l.next.map fun answer =>
      (answer.1.map (·.withAliases plan.blueprint.aliases),
        answer.2.recast plan frontier coins elements) := by
  have hunits : (l.recast plan frontier coins elements).state.unitsBuilt = l.state.unitsBuilt := rfl
  have hmark :
    (l.recast plan frontier coins elements).state.lastUnitsBuilt = l.state.lastUnitsBuilt := rfl
  -- the questions are the same, in the same order, and so are their answers
  unfold next
  rw [hunits, hmark, hasNext_recast h, due?_recast h, handOutEnd_recast h]
  split
  · rfl
  split
  · rfl
  cases l.due? with
  | none => rfl
  | some place =>
    dsimp only
    rw [show (l.recast plan frontier coins elements).plan = plan from rfl, h.next?_eq,
      handOutTemplate_recast h]
    cases l.plan.blueprint.bosses.next? (progress l.state.lastUnitsBuilt)
        (progress l.state.unitsBuilt) with
    | error fault => rfl
    | ok winner? =>
      cases winner? with
      | some rule => rfl
      | none => cases l.handOutTemplate place <;> rfl

end Recast

/-- What a level hands out bears its aliases. Handing out keeps the plan, the frontier and the
streams of coins and elements. -/
theorem next_frame {l l' : Level} {answer : Option Segment} (h : l.next = .ok (answer, l')) :
    answer.map (·.withAliases l.plan.blueprint.aliases) = answer ∧
      l'.recast l.plan l.state.frontier l.state.coins l.state.elements = l' := by
  -- a level is recast to itself
  have hself := next_recast (.refl l.plan.blueprint) l.state.frontier l.state.coins
    l.state.elements
  rw [show l.recast l.plan l.state.frontier l.state.coins l.state.elements = l from rfl, h] at hself
  simp only [Except.map, Except.ok.injEq, Prod.mk.injEq] at hself
  exact ⟨hself.1.symm, hself.2.symm⟩

/-- Levels at one point of the sequence are recast from each other. -/
theorem eq_recast_of_samePoint {l l' : Level} (h : l.state.SamePoint l'.state) :
    l = l'.recast l.plan l.state.frontier l.state.coins l.state.elements := by
  obtain ⟨plan, state⟩ := l
  obtain ⟨hunits, hmark, hcursor, hselection⟩ := h
  simp only [recast, ← hunits, ← hmark, ← hcursor, ← hselection]

/-- Levels of one plan at one point of the sequence hand out the same, and are at one point
again. -/
theorem next_congr {l l' k : Level} {answer : Option Segment} (hplan : l'.plan = l.plan)
    (hpoint : l'.state.SamePoint l.state) (h : l.next = .ok (answer, k)) :
    ∃ k', l'.next = .ok (answer, k') ∧ k'.plan = k.plan ∧ k'.state.SamePoint k.state := by
  obtain ⟨haliases, hkept⟩ := next_frame h
  have hkplan : l.plan = k.plan := by rw [← hkept]; rfl
  rw [eq_recast_of_samePoint hpoint, hplan, next_recast (.refl _), h]
  refine ⟨k.recast l.plan l'.state.frontier l'.state.coins l'.state.elements, ?_, hkplan,
    ⟨rfl, rfl, rfl, rfl⟩⟩
  simp only [Except.map, haliases]

end Level

end LevelForge
