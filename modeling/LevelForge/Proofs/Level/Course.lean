import LevelForge.Proofs.Level.Calls
import LevelForge.Proofs.Level.Itinerary

/-!
# The course of a level

How the state of a level answers to the segments it has handed out: its units are their total
width, its cursor counts the templates of the round, and its mark, up to which boss rules were
consulted, lies before the last template or behind everything else. This is what every step keeps,
so every reachable play has handed out an itinerary.

* `onCourse_of_handsOut`: one step of a level keeps it on course.
* `onCourse_of_reachable`: every reachable play is on course.
-/

namespace LevelForge.Level

open Blueprint (Itinerary)

theorem isEndless_iff {l : Level} : l.isEndless = true ↔ l.plan.blueprint.Endless := by
  rw [isEndless, Bool.and_eq_true, decide_eq_true_eq]
  rfl

theorem hasNext_eq_false_iff {l : Level} :
    l.hasNext = false ↔ ¬ l.plan.blueprint.Endless ∧ l.count < l.state.cursor := by
  rw [hasNext, Bool.or_eq_false_iff, decide_eq_false_iff_not, Nat.not_le, ← Bool.not_eq_true,
    isEndless_iff]

/-- The state of a level that has handed out an itinerary. -/
structure Follows (l : Level) (history : List Segment) (kind : SegmentKind) (handed : Nat) :
    Prop where
  itinerary : Itinerary l.plan.blueprint history kind handed
  units : l.state.unitsBuilt = Segment.span history
  -- the mark is where the last look at the boss rules ended
  mark_template : kind = .regular → l.state.lastUnitsBuilt = Segment.span history.dropLast
  mark_behind : kind = .initial ∨ kind = .boss → l.state.lastUnitsBuilt = l.state.unitsBuilt
  cursor_wall : kind = .terminal → l.state.cursor = l.count + 1
  cursor_finite : kind ≠ .terminal → ¬ l.plan.blueprint.Endless → l.state.cursor = handed
  cursor_round : kind ≠ .terminal → l.state.cursor ≤ l.count ∧
    l.state.cursor % l.count = handed % l.count

/-- The state of a level and the segments it has handed out: none yet, or an itinerary. -/
def OnCourse (history : List Segment) (l : Level) : Prop :=
  (history = [] ∧ l.state.unitsBuilt = 0 ∧ l.state.lastUnitsBuilt = 0 ∧ l.state.cursor = 0) ∨
    ∃ kind handed, l.Follows history kind handed

/-! ## What the state of a level tells -/

section Course

variable {l : Level} {history : List Segment} {kind : SegmentKind} {handed : Nat}

theorem OnCourse.units_eq (h : OnCourse history l) :
    l.state.unitsBuilt = Segment.span history := by
  rcases h with ⟨rfl, hunits, -⟩ | ⟨kind, handed, hfollows⟩
  · exact hunits
  · exact hfollows.units

/-- A level has something left exactly until the end wall was handed out. -/
theorem Follows.hasNext_eq_false_iff (h : l.Follows history kind handed) :
    l.hasNext = false ↔ kind = .terminal := by
  rw [Level.hasNext_eq_false_iff]
  constructor
  · rintro ⟨-, hlt⟩
    by_contra hkind
    have := (h.cursor_round hkind).1
    omega
  · rintro rfl
    refine ⟨h.itinerary.handed_eq_of_terminal.1, ?_⟩
    rw [h.cursor_wall rfl]
    exact Nat.lt_succ_self _

/-- Whoever has handed out an itinerary has handed out its floor. -/
theorem Follows.units_ne_zero (h : l.Follows history kind handed) : l.state.unitsBuilt ≠ 0 := by
  rw [h.units]
  exact h.itinerary.span_pos.ne'

theorem Follows.history_ne_nil (h : l.Follows history kind handed) : history ≠ [] := by
  rintro rfl
  exact h.units_ne_zero h.units

theorem Follows.ne_terminal (h : l.Follows history kind handed) (hnext : l.hasNext = true) :
    kind ≠ .terminal := by
  rintro rfl
  rw [h.hasNext_eq_false_iff.mpr rfl] at hnext
  cases hnext

/-- While the wall is not handed out, a template is due exactly where there is room for one. -/
theorem Follows.hasRoom_iff (h : l.Follows history kind handed) (hkind : kind ≠ .terminal) :
    l.plan.blueprint.HasRoom handed ↔ ∃ place, l.due? = some place := by
  have hround := (h.cursor_round hkind).1
  unfold Blueprint.HasRoom due?
  by_cases hendless : l.plan.blueprint.Endless
  · have : l.isEndless = true := isEndless_iff.mpr hendless
    simp only [hendless, true_or, this, if_true, true_iff]
    split
    · exact ⟨_, rfl⟩
    · exact ⟨_, rfl⟩
  · have hnot : ¬ l.isEndless = true := fun hyes => hendless (isEndless_iff.mp hyes)
    rw [h.cursor_finite hkind hendless]
    simp only [hendless, false_or, hnot]
    split
    · next hlt => exact ⟨fun _ => ⟨_, rfl⟩, fun _ => hlt⟩
    · next hge => exact ⟨fun hlt => absurd hlt hge, nofun⟩

/-- The template that is due is the next one of the round. -/
theorem Follows.due_eq (h : l.Follows history kind handed) (hkind : kind ≠ .terminal)
    {place : Nat} (hdue : l.due? = some place) : place = handed % l.count := by
  obtain ⟨hle, hmod⟩ := h.cursor_round hkind
  rw [← hmod]
  unfold due? at hdue
  split at hdue
  · next hlt =>
    cases hdue
    exact (Nat.mod_eq_of_lt hlt).symm
  · next hge =>
    split at hdue
    · cases hdue
      -- the round is over, so the cursor stands at its end and the next one starts at zero
      have heq : l.state.cursor = l.count := le_antisymm hle (Nat.le_of_not_lt hge)
      rw [heq, Nat.mod_self]
    · cases hdue

/-- Between two looks at the boss rules something was built only if a template came last. -/
theorem Follows.kind_eq_of_mark_lt (h : l.Follows history kind handed) (hnext : l.hasNext = true)
    (hmark : l.state.lastUnitsBuilt < l.state.unitsBuilt) : kind = .regular := by
  have hterminal := h.ne_terminal hnext
  cases kind with
  | initial => exact absurd (h.mark_behind (.inl rfl)) hmark.ne
  | regular => rfl
  | boss => exact absurd (h.mark_behind (.inr rfl)) hmark.ne
  | terminal => exact absurd rfl hterminal

/-- A threshold is crossed between two looks only if a template came last. -/
theorem Follows.kind_eq_of_wins (h : l.Follows history kind handed) {place : Nat}
    (hdue : l.due? = some place) {rules : List Boss.Rule} {rule : Boss.Rule} {t : Int}
    (hwins : Boss.Schedule.Wins rules (progress l.state.lastUnitsBuilt) rule t)
    (hreached : t ≤ progress l.state.unitsBuilt) : kind = .regular := by
  apply h.kind_eq_of_mark_lt (hasNext_of_due hdue)
  -- the threshold lies between the mark and the units
  have habove := hwins.above
  unfold progress at habove hreached
  omega

/-- The mark is never ahead of what was handed out. -/
theorem Follows.mark_le (h : l.Follows history kind handed) (hkind : kind ≠ .terminal) :
    l.state.lastUnitsBuilt ≤ l.state.unitsBuilt := by
  cases kind with
  | initial => exact (h.mark_behind (.inl rfl)).le
  | regular =>
    rw [h.mark_template rfl, h.units]
    exact Segment.span_dropLast_le history
  | boss => exact (h.mark_behind (.inr rfl)).le
  | terminal => exact absurd rfl hkind

/-! ## Every step keeps a level on course -/

theorem onCourse_start (plan : LevelPlan) : OnCourse [] (start plan) :=
  .inl ⟨rfl, rfl, rfl, rfl⟩

/-- The frontier and the random streams play no part in the course. -/
theorem OnCourse.of_sameCourse (h : OnCourse history l) {state : LevelState}
    (hsame : l.state.SameCourse state) :
    OnCourse history { l with state } := by
  obtain ⟨hcursor, hunits, hmark⟩ := hsame
  rcases h with ⟨rfl, hunits₀, hmark₀, hcursor₀⟩ | ⟨kind, handed, h⟩
  · exact .inl ⟨rfl, hunits.trans hunits₀, hmark.trans hmark₀, hcursor.trans hcursor₀⟩
  · refine .inr ⟨kind, handed, h.itinerary, hunits.trans h.units, ?_, ?_, ?_, ?_, ?_⟩
    · exact fun hkind => hmark.trans (h.mark_template hkind)
    · exact fun hkind => hmark.trans ((h.mark_behind hkind).trans hunits.symm)
    · exact fun hkind => hcursor.trans (h.cursor_wall hkind)
    · exact fun hkind hfinite => hcursor.trans (h.cursor_finite hkind hfinite)
    · intro hkind
      show state.cursor ≤ _ ∧ state.cursor % _ = _
      rw [hcursor]
      exact h.cursor_round hkind

theorem follows_floor (l : Level) (hcursor : l.state.cursor = 0) :
    l.handOutFloor.2.Follows [l.handOutFloor.1] .initial 0 where
  itinerary := .floor
  units := by
    rw [Segment.span_singleton]
    rfl
  mark_template := nofun
  mark_behind _ := rfl
  cursor_wall := nofun
  cursor_finite _ _ := hcursor
  cursor_round _ := by
    show l.state.cursor ≤ _ ∧ l.state.cursor % _ = _
    rw [hcursor]
    exact ⟨Nat.zero_le _, rfl⟩

/-- The wall comes where no template is due, so not behind an arena. -/
theorem Follows.wall (h : l.Follows history kind handed) (hnext : l.hasNext = true)
    (hdue : l.due? = none) :
    l.handOutEnd.2.Follows (history ++ [l.handOutEnd.1]) .terminal handed := by
  have hterminal := h.ne_terminal hnext
  have hroom : ¬ l.plan.blueprint.HasRoom handed := by
    rw [h.hasRoom_iff hterminal, hdue]
    rintro ⟨place, hplace⟩
    cases hplace
  -- behind an arena there is still room for the template it kept waiting
  have hboss : kind ≠ .boss := by
    rintro rfl
    exact hroom h.itinerary.hasRoom_of_boss
  refine ⟨.wall h.itinerary hterminal hboss hroom, ?_, nofun, nofun, fun _ => rfl, nofun, nofun⟩
  rw [Segment.span_append, Segment.span_singleton, ← h.units]
  rfl

/-- An arena comes where the mark was left behind, so directly behind a template. -/
theorem Follows.arena (h : l.Follows history .regular handed) {place : Nat}
    (hdue : l.due? = some place) (boss : String) :
    (l.handOutArena boss).2.Follows (history ++ [(l.handOutArena boss).1]) .boss handed where
  itinerary := .arena boss h.itinerary ((h.hasRoom_iff nofun).mpr ⟨place, hdue⟩)
  units := by
    rw [Segment.span_append, Segment.span_singleton, ← h.units]
    rfl
  mark_template := nofun
  mark_behind _ := rfl
  cursor_wall := nofun
  cursor_finite _ hfinite := h.cursor_finite nofun hfinite
  cursor_round _ := h.cursor_round nofun

/-- A template comes with the number of its place in the round, and takes the cursor one on. -/
theorem Follows.template (h : l.Follows history kind handed) {place index gap : Nat}
    {template : Template} {key : Random.Key} (hdue : l.due? = some place)
    (hindex : l.plan.blueprint.templates[index]? = some template)
    (hplace : l.has .shuffle = false → index = place) :
    (l.afterTemplate place (template.width + gap) key).Follows
      (history ++ [l.regular index template gap]) .regular (handed + 1) := by
  have hterminal := h.ne_terminal (hasNext_of_due hdue)
  have hround : place = handed % l.count := h.due_eq hterminal hdue
  have hlt : place < l.count := lt_count_of_due hdue
  refine ⟨?_, ?_, ?_, nofun, nofun, ?_, ?_⟩
  · refine .template h.itinerary hterminal ((h.hasRoom_iff hterminal).mpr ⟨place, hdue⟩)
      ⟨rfl, index, rfl, hindex⟩ ?_
    intro hordered
    show some (index : Int) = _
    rw [hplace hordered, hround]
    rfl
  · rw [Segment.span_append, Segment.span_singleton, ← h.units]
    rfl
  · intro _
    rw [List.dropLast_concat, ← h.units]
    rfl
  · -- a finite level goes through its templates once, so the place is their number
    intro _ hfinite
    show place + 1 = handed + 1
    have hhanded : handed < l.count :=
      ((h.hasRoom_iff hterminal).mpr ⟨place, hdue⟩).resolve_left hfinite
    rw [hround, Nat.mod_eq_of_lt hhanded]
  · intro _
    show place + 1 ≤ l.count ∧ (place + 1) % l.count = (handed + 1) % l.count
    exact ⟨hlt, by rw [hround, Nat.mod_add_mod]⟩

/-- One step of a level keeps it on course. -/
theorem onCourse_of_handsOut {l' : Level} {answer : Option Segment} (h : OnCourse history l)
    (hstep : l.HandsOut answer l') : OnCourse (history ++ answer.toList) l' := by
  rcases h with ⟨rfl, hunits, -, hcursor⟩ | ⟨kind, handed, h⟩
  · obtain ⟨rfl, rfl⟩ := hstep.eq_floor hunits
    exact .inr ⟨.initial, 0, follows_floor l hcursor⟩
  · cases hstep with
    | floor hfresh => exact absurd hfresh h.units_ne_zero
    | exhausted => exact .inr ⟨kind, handed, by simpa using h⟩
    | wall _ hnext hdue => exact .inr ⟨.terminal, handed, h.wall hnext hdue⟩
    | arena _ hdue hwins hreached =>
      -- a threshold was crossed, so a template came last
      obtain rfl := h.kind_eq_of_wins hdue hwins hreached
      exact .inr ⟨.boss, handed, h.arena hdue _⟩
    | template _ hdue _ hindex hplace =>
      exact .inr ⟨.regular, handed + 1, h.template hdue hindex hplace⟩

end Course

/-- Every reachable play is on course. -/
theorem onCourse_of_reachable {plan : LevelPlan} (hfilled : plan.blueprint.bosses.Admissible)
    {history : List Segment} {p : Play} (hreach : Play.Reachable plan history p) :
    p.level.plan = plan ∧ OnCourse history p.level :=
  Play.Reachable.induction hfilled (onCourse_start plan)
    (fun _ h hstep => onCourse_of_handsOut h hstep) (fun _ h hsame => h.of_sameCourse hsame) hreach

end LevelForge.Level
