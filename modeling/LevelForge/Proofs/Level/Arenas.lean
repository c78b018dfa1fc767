import LevelForge.Proofs.Boss.Campaign
import LevelForge.Proofs.Filled
import LevelForge.Proofs.Level.Course

/-!
# The arenas of a level

A level compares two marks to find out whether a boss is due, its mark and its units. That this
obeys the law of the boss rules over whole histories needs the invariant that nothing is left
behind the mark: between the latest arena and the mark no rule has a threshold.

* `Level.vigilant_of_handsOut`: one step of a level keeps the invariant.
* `Play.arenas_of_reachable`: the law of the boss rules, in every reachable play.
-/

namespace LevelForge

open Boss
open Boss.Schedule (Wins Crosses crosses_iff_of_not_crosses not_crosses_of_le)

namespace Level

/-- A level that has missed no threshold of its boss rules. -/
structure Vigilant (history : List Segment) (l : Level) : Prop where
  course : OnCourse history l
  campaign : ∃ wins, Campaign l.plan.blueprint history wins
  -- the mark lies behind the latest arena, and no threshold lies between the two
  mark : history ≠ [] → arenaEnd history ≤ progress l.state.lastUnitsBuilt
  nothingLeft : ¬ Crosses l.plan.blueprint.bosses.rules (arenaEnd history)
    (progress l.state.lastUnitsBuilt)

/-! ## The invariant -/

section Vigilance

variable {l : Level} {history : List Segment}

/-- The progress after a history is that of the level. -/
theorem Vigilant.progressAfter_eq (h : Vigilant history l) :
    progressAfter history = progress l.state.unitsBuilt := by
  rw [h.course.units_eq]
  rfl

/-- Looking behind the mark is looking behind the latest arena. -/
theorem Vigilant.crosses_iff (h : Vigilant history l) (hne : history ≠ []) :
    Crosses l.plan.blueprint.bosses.rules (progress l.state.lastUnitsBuilt)
        (progress l.state.unitsBuilt) ↔
      Crosses l.plan.blueprint.bosses.rules (arenaEnd history) (progressAfter history) := by
  rw [h.progressAfter_eq]
  exact (crosses_iff_of_not_crosses (h.mark hne) h.nothingLeft).symm

/-- A rule that wins since the last look at the rules wins since the last arena. -/
theorem Vigilant.wins (h : Vigilant history l) (hne : history ≠ []) {rule : Rule} {t : Int}
    (hwins : Wins l.plan.blueprint.bosses.rules (progress l.state.lastUnitsBuilt) rule t) :
    Wins l.plan.blueprint.bosses.rules (arenaEnd history) rule t :=
  hwins.of_not_crosses (h.mark hne) h.nothingLeft

/-- At its start a level has overlooked no rule. -/
theorem vigilant_start (plan : LevelPlan) : Vigilant [] (start plan) where
  course := onCourse_start plan
  campaign := ⟨[], .start⟩
  mark hne := absurd rfl hne
  nothingLeft := by
    rw [arenaEnd_nil]
    exact not_crosses_of_le (Int.negSucc_lt_zero 11).le

/-- The frontier and the random streams play no part in the boss rules. -/
theorem Vigilant.of_sameCourse (h : Vigilant history l) {state : LevelState}
    (hsame : l.state.SameCourse state) : Vigilant history { l with state } where
  course := h.course.of_sameCourse hsame
  campaign := h.campaign
  mark := by
    rw [hsame.mark]
    exact h.mark
  nothingLeft := by
    rw [hsame.mark]
    exact h.nothingLeft

/-- A segment that is no arena may follow where no threshold was crossed, or at the end. -/
theorem Vigilant.quiet (h : Vigilant history l) {l' : Level} {s : Segment}
    (hcourse : OnCourse (history ++ [s]) l') (hplan : l'.plan = l.plan) (hkind : s.kind ≠ .boss)
    (hquiet : s.kind ≠ .terminal →
      ¬ Crosses l.plan.blueprint.bosses.rules (arenaEnd history) (progressAfter history))
    (hmark : arenaEnd history ≤ progress l'.state.lastUnitsBuilt)
    (hnothing : ¬ Crosses l.plan.blueprint.bosses.rules (arenaEnd history)
      (progress l'.state.lastUnitsBuilt)) : Vigilant (history ++ [s]) l' := by
  obtain ⟨wins, hcampaign⟩ := h.campaign
  have hend := arenaEnd_concat_of_ne history hkind
  refine ⟨hcourse, ⟨wins, ?_⟩, fun _ => hend.trans_le hmark, ?_⟩
  · rw [hplan]
    exact .quiet hcampaign hkind hquiet
  · rw [hplan, hend]
    exact hnothing

/-- The mark is set behind an arena, where its progress ends. -/
theorem Vigilant.arena (h : Vigilant history l) {last : Segment} {rule : Rule} {t : Int}
    (hcourse : OnCourse (history ++ [(l.handOutArena rule.symbol).1])
      (l.handOutArena rule.symbol).2)
    (hlast : last ∈ history.getLast?) (hkind : last.kind = .regular)
    (hwins : Wins l.plan.blueprint.bosses.rules (progress l.state.lastUnitsBuilt) rule t)
    (hreached : t ≤ progress l.state.unitsBuilt) :
    Vigilant (history ++ [(l.handOutArena rule.symbol).1]) (l.handOutArena rule.symbol).2 := by
  obtain ⟨wins, hcampaign⟩ := h.campaign
  have hne : history ≠ [] := by
    rintro rfl
    cases hlast
  have hend : arenaEnd (history ++ [(l.handOutArena rule.symbol).1]) =
      progress (l.handOutArena rule.symbol).2.state.lastUnitsBuilt := by
    rw [arenaEnd_concat_of_eq history rfl, progressAfter, ← hcourse.units_eq]
    rfl
  -- the winner behind the mark is the winner behind the arena before
  have hwins' := h.wins hne hwins
  rw [← h.progressAfter_eq] at hreached
  exact ⟨hcourse, ⟨_, .arena hcampaign hlast hkind hwins' hreached⟩, fun _ => hend.le,
    not_crosses_of_le hend.ge⟩

/-- Behind its spawn floor a level has overlooked no rule. -/
theorem vigilant_floor {l : Level} (h : Vigilant [] l)
    (hcourse : OnCourse [l.handOutFloor.1] l.handOutFloor.2) :
    Vigilant [l.handOutFloor.1] l.handOutFloor.2 := by
  -- the floor ends where progress starts
  have hzero : progress l.handOutFloor.2.state.lastUnitsBuilt = 0 := rfl
  refine h.quiet hcourse rfl nofun (fun _ => ?_) ?_ ?_
  · rw [arenaEnd_nil]
    exact not_crosses_of_le (Int.negSucc_lt_zero 11).le
  · rw [arenaEnd_nil, hzero]
  · rw [arenaEnd_nil, hzero]
    exact not_crosses_of_le le_rfl

/-- One step of a level keeps it vigilant. -/
theorem vigilant_of_handsOut (h : Vigilant history l) {l' : Level} {answer : Option Segment}
    (hstep : l.HandsOut answer l') : Vigilant (history ++ answer.toList) l' := by
  have hcourse := onCourse_of_handsOut h.course hstep
  rcases h.course with ⟨rfl, hunits, -⟩ | ⟨kind, handed, hfollows⟩
  · obtain ⟨rfl, rfl⟩ := hstep.eq_floor hunits
    exact vigilant_floor h hcourse
  · have hne := hfollows.history_ne_nil
    cases hstep with
    | floor hfresh => exact absurd hfresh hfollows.units_ne_zero
    | exhausted => simpa using h
    | wall =>
      -- the wall leaves the mark where it is
      exact h.quiet hcourse rfl nofun (fun hkind => absurd rfl hkind) (h.mark hne) h.nothingLeft
    | arena _ hdue hwins hreached =>
      have hlast := List.getLast?_eq_some_getLast hne
      obtain rfl := hfollows.kind_eq_of_wins hdue hwins hreached
      exact h.arena hcourse hlast (hfollows.itinerary.kind_eq_of_mem_getLast? hlast) hwins hreached
    | template _ hdue hquiet =>
      rw [h.crosses_iff hne] at hquiet
      refine h.quiet hcourse rfl nofun (fun _ => hquiet) ((h.mark hne).trans ?_) ?_
      · -- the mark moves up to what was handed out before
        have := hfollows.mark_le (hfollows.ne_terminal (hasNext_of_due hdue))
        change progress l.state.lastUnitsBuilt ≤ progress l.state.unitsBuilt
        unfold progress
        omega
      · rw [h.progressAfter_eq] at hquiet
        exact hquiet

/-- An arena that is handed out follows a template, and its boss is that of the winner. -/
theorem Vigilant.exists_wins (h : Vigilant history l) {l' : Level} {s : Segment}
    (hstep : l.HandsOut (some s) l') (hboss : s.kind = .boss) :
    (∃ last ∈ history.getLast?, last.kind = .regular) ∧
      ∃ rule t, Wins l.plan.blueprint.bosses.rules (arenaEnd history) rule t ∧
        t ≤ progress l.state.unitsBuilt ∧ s = .arena rule.symbol l.plan.blueprint.aliases := by
  cases hstep with
  | floor => cases hboss
  | wall => cases hboss
  | template => cases hboss
  | arena hunits hdue hwins hreached =>
    rcases h.course with ⟨-, hfresh, -⟩ | ⟨kind, handed, hfollows⟩
    · exact absurd hfresh hunits
    · obtain rfl := hfollows.kind_eq_of_wins hdue hwins hreached
      have hne := hfollows.history_ne_nil
      have hlast := List.getLast?_eq_some_getLast hne
      exact ⟨⟨_, hlast, hfollows.itinerary.kind_eq_of_mem_getLast? hlast⟩,
        _, _, h.wins hne hwins, hreached, rfl⟩

/-- Behind a template something follows, and where a threshold was crossed it is an arena or the
end wall. -/
theorem Vigilant.exists_answer (h : Vigilant history l) {l' : Level} {answer : Option Segment}
    {last : Segment} (hstep : l.HandsOut answer l')
    (hlast : last ∈ history.getLast?) (hregular : last.kind = .regular) :
    ∃ s, answer = some s ∧ (s.kind ≠ .terminal →
      Crosses l.plan.blueprint.bosses.rules (arenaEnd history) (progress l.state.unitsBuilt) →
      s.kind = .boss) := by
  have hne : history ≠ [] := by
    rintro rfl
    cases hlast
  rcases h.course with ⟨rfl, -⟩ | ⟨kind, handed, hfollows⟩
  · exact absurd rfl hne
  · have hkind := hfollows.itinerary.kind_eq_of_mem_getLast? hlast
    rw [hregular] at hkind
    cases hstep with
    | floor hfresh => exact absurd hfresh hfollows.units_ne_zero
    | exhausted _ hend =>
      rw [hfollows.hasNext_eq_false_iff.mp hend] at hkind
      cases hkind
    | wall => exact ⟨_, rfl, fun hterminal => absurd rfl hterminal⟩
    | arena => exact ⟨_, rfl, fun _ _ => rfl⟩
    | template _ _ hquiet =>
      refine ⟨_, rfl, fun _ hcrosses => ?_⟩
      rw [h.crosses_iff hne, h.progressAfter_eq] at hquiet
      exact absurd hcrosses hquiet

end Vigilance

/-! ## The law -/

/-- A reachable play has overlooked no rule. -/
theorem vigilant_of_reachable {plan : LevelPlan} (hadmissible : plan.blueprint.bosses.Admissible)
    {history : List Segment} {p : Play} (hreach : Play.Reachable plan history p) :
    p.level.plan = plan ∧ Vigilant history p.level :=
  Play.Reachable.induction hadmissible (vigilant_start plan)
    (fun _ h hstep => vigilant_of_handsOut h hstep) (fun _ h hsame => h.of_sameCourse hsame) hreach

end Level

end LevelForge
