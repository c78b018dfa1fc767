import LevelForge.Proofs.Filled
import LevelForge.Proofs.Level.Course

/-!
# The sequence of a level

What handing out segments one by one comes to, from the start of a level on: a finite level hands
out one fixed course that ends with its wall, and nothing ever after; an endless level never stops.

* `Play.exists_handOut`: handing out never fails, and it stops only where nothing is left.
* `Play.handedOut_sequence`: the course of a level, and what `next` answers in every reachable play.
-/

namespace LevelForge

/-- The phases of a level in their order. -/
def Phase.stage : Phase → Nat
  | .notStarted => 0
  | .building => 1
  | .exhausted => 2

namespace Level

/-- The phase depends on the course of a state alone. -/
theorem phase_eq_of_sameCourse {l : Level} {state : LevelState}
    (hsame : l.state.SameCourse state) : ({ l with state } : Level).phase = l.phase := by
  obtain ⟨hcursor, hunits, -⟩ := hsame
  unfold phase hasNext
  rw [hunits, hcursor]
  rfl

/-- A step of a level never takes it back to an earlier phase. -/
theorem stage_le_of_handsOut {l l' : Level} {answer : Option Segment}
    (hstep : l.HandsOut answer l') : l.phase.stage ≤ l'.phase.stage := by
  -- only the exhausted step is taken in the last phase, and it changes nothing
  have hbuilding {l' : Level} (hunits : l.state.unitsBuilt ≠ 0) (hnext : l.hasNext = true)
      (hunits' : l'.state.unitsBuilt ≠ 0) : l.phase.stage ≤ l'.phase.stage := by
    unfold phase
    rw [if_neg hunits, if_pos hnext, if_neg hunits']
    split <;> simp [Phase.stage]
  cases hstep with
  | floor hfresh =>
    unfold phase
    rw [if_pos hfresh]
    exact Nat.zero_le _
  | exhausted => exact le_rfl
  | wall hunits hnext => exact hbuilding hunits hnext (Nat.succ_ne_zero _)
  | arena hunits hdue =>
    refine hbuilding hunits (hasNext_of_due hdue) ?_
    show l.state.unitsBuilt + _ ≠ 0
    omega
  | template hunits hdue =>
    refine hbuilding hunits (hasNext_of_due hdue) ?_
    show l.state.unitsBuilt + _ ≠ 0
    omega

/-- A level on course answers with nothing exactly where it has nothing left. -/
theorem answer_eq_none_iff {l l' : Level} {history : List Segment} {answer : Option Segment}
    (h : OnCourse history l) (hstep : l.HandsOut answer l') :
    answer = none ↔ l.hasNext = false := by
  cases hstep with
  | floor hfresh =>
    -- a level without units is at its start, where the floor is left
    rcases h with ⟨-, -, -, hcursor⟩ | ⟨kind, handed, h⟩
    · rw [hasNext_eq_false_iff, hcursor]
      simp
    · exact absurd hfresh h.units_ne_zero
  | exhausted _ hend => exact iff_of_true rfl hend
  | wall _ hnext => simp [hnext]
  | arena _ hdue => simp [hasNext_of_due hdue]
  | template _ hdue => simp [hasNext_of_due hdue]

/-- A single segment takes a level at most one phase on. -/
theorem stage_le_succ_of_handsOut {l l' : Level} {history : List Segment}
    {answer : Option Segment} (h : OnCourse history l) (hstep : l.HandsOut answer l') :
    l'.phase.stage ≤ l.phase.stage + 1 := by
  rcases h with ⟨-, hunits, -, hcursor⟩ | ⟨kind, handed, h⟩
  · obtain ⟨-, rfl⟩ := hstep.eq_floor hunits
    -- behind the floor there is always something left, if only the wall
    have hleft : l.handOutFloor.2.hasNext = true := by
      rw [← Bool.not_eq_false, hasNext_eq_false_iff]
      rintro ⟨-, hlt⟩
      have : l.state.cursor ≤ l.count := by omega
      exact absurd hlt (Nat.not_lt.mpr this)
    unfold phase
    rw [if_pos hunits, if_pos hleft]
    split <;> simp [Phase.stage]
  · have hlow : 1 ≤ l.phase.stage := by
      unfold phase
      rw [if_neg h.units_ne_zero]
      split <;> simp [Phase.stage]
    have hhigh : l'.phase.stage ≤ 2 := by cases l'.phase <;> simp [Phase.stage]
    omega

end Level

namespace Play

/-! ## Runs of a play -/

/-- A reachable play is reachable after its next segment. -/
theorem Reachable.next {plan : LevelPlan} {history : List Segment} {p p' : Play}
    {answer : Option Segment} (hreach : Reachable plan history p)
    (hnext : p.next = .ok (answer, p')) : Reachable plan (history ++ answer.toList) p' := by
  have := hreach.call .next
  simpa only [perform, hnext, Call.extend, Reply.segments] using this

/-- Handing out several times is handing out once, and then the others. -/
theorem handOut_succ_eq_ok_iff {p p'' : Play} {times : Nat} {answers : List (Option Segment)} :
    p.handOut (times + 1) = .ok (answers, p'') ↔
      ∃ first others p', p.next = .ok (first, p') ∧ p'.handOut times = .ok (others, p'') ∧
        answers = first :: others := by
  rw [handOut]
  cases hnext : p.next with
  | error fault => simp [bind, Except.bind]
  | ok pair =>
    obtain ⟨first, p'⟩ := pair
    cases hmore : p'.handOut times with
    | error fault => simp [hmore, bind, Except.bind]
    | ok more => simp [hmore, bind, Except.bind, pure, Except.pure, Prod.ext_iff, eq_comm, and_comm]

/-- Handing out goes on where it ended. -/
theorem handOut_append {p p' p'' : Play} {m n : Nat} {xs ys : List (Option Segment)}
    (hfirst : p.handOut m = .ok (xs, p')) (hrest : p'.handOut n = .ok (ys, p'')) :
    p.handOut (m + n) = .ok (xs ++ ys, p'') := by
  -- along the first run, whose play changes with every segment
  induction m generalizing p xs with
  | zero =>
    cases hfirst
    rw [Nat.zero_add]
    exact hrest
  | succ m ih =>
    obtain ⟨x, xs, p₁, hnext, hmore, rfl⟩ := handOut_succ_eq_ok_iff.mp hfirst
    rw [Nat.succ_add]
    exact handOut_succ_eq_ok_iff.mpr ⟨x, xs ++ ys, p₁, hnext, ih hmore, rfl⟩

/-- What is handed out first is the beginning of what is handed out in all. -/
theorem exists_handOut_take {p p'' : Play} {m n : Nat} {answers : List (Option Segment)}
    (h : p.handOut (m + n) = .ok (answers, p'')) :
    ∃ p', p.handOut m = .ok (answers.take m, p') := by
  induction m generalizing p answers with
  | zero => exact ⟨p, rfl⟩
  | succ m ih =>
    rw [Nat.succ_add] at h
    obtain ⟨x, xs, p₁, hnext, hmore, rfl⟩ := handOut_succ_eq_ok_iff.mp h
    obtain ⟨p', htake⟩ := ih hmore
    exact ⟨p', handOut_succ_eq_ok_iff.mpr ⟨x, xs.take m, p₁, hnext, htake, rfl⟩⟩

/-- Where nothing is left, nothing is handed out any number of times. -/
theorem handOut_of_next_eq_none {p : Play} (h : p.next = .ok (none, p)) (times : Nat) :
    p.handOut times = .ok (List.replicate times none, p) := by
  induction times with
  | zero => rfl
  | succ times ih => simp [handOut, h, ih, bind, Except.bind, pure, Except.pure, List.replicate]

section Runs

variable {plan : LevelPlan} {history : List Segment} {p : Play}

/-- In a reachable play `next` answers, and with nothing exactly where nothing is left; then
nothing changes. -/
theorem Reachable.exists_next (hadmissible : plan.blueprint.bosses.Admissible)
    (hreach : Reachable plan history p) :
    ∃ answer p', p.next = .ok (answer, p') ∧ (answer = none → p' = p) ∧
      (answer = none ↔ p.level.hasNext = false) := by
  obtain ⟨rfl, hcourse⟩ := Level.onCourse_of_reachable hadmissible hreach
  obtain ⟨answer, l', hnext, hstep⟩ := Level.exists_handsOut hadmissible
  refine ⟨answer, { p with level := l' }, next_eq_ok_iff.mpr ⟨l', hnext, rfl⟩, ?_,
    Level.answer_eq_none_iff hcourse hstep⟩
  rintro rfl
  cases hstep with
  | exhausted => rfl

/-- Where nothing is handed out nothing is left. -/
theorem Reachable.hasNext_eq_false (hadmissible : plan.blueprint.bosses.Admissible)
    (hreach : Reachable plan history p) {p' : Play} (hnext : p.next = .ok (none, p')) :
    p.level.hasNext = false := by
  obtain ⟨answer, p'', hnext', -, hnone⟩ := hreach.exists_next hadmissible
  rw [hnext] at hnext'
  cases hnext'
  exact hnone.mp rfl

/-- Handing out never fails: it gives segments up to the number asked for, or fewer where nothing
is left behind them. -/
theorem exists_handOut (hadmissible : plan.blueprint.bosses.Admissible)
    (hreach : Reachable plan history p) (times : Nat) :
    ∃ segments p', segments.length ≤ times ∧
      p.handOut segments.length = .ok (segments.map some, p') ∧
      Reachable plan (history ++ segments) p' ∧
      (segments.length < times → p'.next = .ok (none, p')) := by
  induction times generalizing history p with
  | zero => exact ⟨[], p, le_rfl, rfl, by simpa using hreach, fun h => absurd h (Nat.lt_irrefl _)⟩
  | succ times ih =>
    obtain ⟨answer, p₁, hnext, hsame, -⟩ := hreach.exists_next hadmissible
    cases answer with
    | none =>
      obtain rfl := hsame rfl
      exact ⟨[], p₁, Nat.zero_le _, rfl, by simpa using hreach, fun _ => hnext⟩
    | some segment =>
      obtain ⟨segments, p', hlength, hhanded, hreach', hend⟩ := ih (hreach.next hnext)
      refine ⟨segment :: segments, p', Nat.succ_le_succ hlength, ?_, by simpa using hreach', ?_⟩
      · -- one segment, and then the run that the induction gives
        have hone : p.handOut 1 = .ok ([some segment], p₁) := by
          simp [handOut, hnext, bind, Except.bind, pure, Except.pure]
        have := handOut_append hone hhanded
        rwa [Nat.add_comm] at this
      · intro hlt
        exact hend (Nat.lt_of_succ_lt_succ hlt)

/-- The segments of a finite level: a course that ends with the wall, behind which nothing is
left. -/
theorem exists_course (hadmissible : plan.blueprint.bosses.Admissible) (hstart : p.AtStart plan)
    (hfinite : ¬ plan.blueprint.Endless) :
    ∃ segments templates last,
      p.handOut segments.length = .ok (segments.map some, last) ∧
      last.next = .ok (none, last) ∧
      plan.blueprint.IsCourse segments templates [.endWall plan.blueprint.aliases] ∧
      templates.length = plan.blueprint.count ∧
      (1 ≤ plan.blueprint.count → segments.length ≤ 2 * plan.blueprint.count + 1) := by
  obtain ⟨segments, last, -, hhanded, hreach, hend⟩ :=
    exists_handOut hadmissible hstart.reachable (2 * plan.blueprint.count + 3)
  rw [List.nil_append] at hreach
  obtain ⟨hplan, hcourse⟩ := Level.onCourse_of_reachable hadmissible hreach
  -- the course is bounded, so something less than what was asked for was handed out
  have hlt : segments.length < 2 * plan.blueprint.count + 3 := by
    rcases hcourse with ⟨rfl, -⟩ | ⟨kind, handed, hfollows⟩
    · exact Nat.succ_pos _
    · have hitinerary := hfollows.itinerary
      rw [hplan] at hitinerary
      have hlength := hitinerary.length_eq
      have hle := hitinerary.handed_le hfinite
      have hcount := hitinerary.countP_boss_le.1
      split at hlength <;> omega
  have hnext := hend hlt
  have hleft := hreach.hasNext_eq_false hadmissible hnext
  rcases hcourse with ⟨-, -, -, hcursor⟩ | ⟨kind, handed, hfollows⟩
  · have := (Level.hasNext_eq_false_iff.mp hleft).2
    omega
  · -- nothing is left, so the wall came last
    obtain rfl := hfollows.hasNext_eq_false_iff.mp hleft
    have hitinerary := hfollows.itinerary
    rw [hplan] at hitinerary
    obtain ⟨templates, hlength, hisCourse⟩ := hitinerary.isCourse
    exact ⟨segments, templates, last, hhanded, hnext, hisCourse,
      hlength.trans hitinerary.handed_eq_of_terminal.2, hitinerary.length_le hfinite⟩

/-- A run of a level with an end is a part of its course, followed by nothing. -/
theorem handOut_eq_take {segments : List Segment} {last : Play}
    (hhanded : p.handOut segments.length = .ok (segments.map some, last))
    (hend : last.next = .ok (none, last)) (times : Nat) :
    ∃ p', p.handOut times = .ok ((segments.take times).map some ++
        List.replicate (times - segments.length) none, p') ∧
      (segments.length ≤ times → p' = last) := by
  by_cases hle : segments.length ≤ times
  · -- the whole course, and then nothing
    refine ⟨last, ?_, fun _ => rfl⟩
    have := handOut_append hhanded (handOut_of_next_eq_none hend (times - segments.length))
    rw [Nat.add_sub_cancel' hle] at this
    rwa [List.take_of_length_le hle]
  · -- the beginning of the course, of which the whole is known to succeed
    obtain ⟨rest, hrest⟩ := Nat.exists_eq_add_of_le (Nat.le_of_not_le hle)
    rw [hrest] at hhanded
    obtain ⟨p', htake⟩ := exists_handOut_take hhanded
    refine ⟨p', ?_, fun h => absurd h hle⟩
    rw [htake, List.map_take, Nat.sub_eq_zero_of_le (Nat.le_of_not_le hle), List.replicate_zero,
      List.append_nil]

/-- A run of an endless level is all segments, and a course without an end. -/
theorem exists_handOut_of_endless (hadmissible : plan.blueprint.bosses.Admissible)
    (hstart : p.AtStart plan) (hendless : plan.blueprint.Endless) (times : Nat) :
    ∃ segments p', p.handOut times = .ok (segments.map some, p') ∧ segments.length = times ∧
      (0 < times → ∃ templates, plan.blueprint.IsCourse segments templates []) := by
  obtain ⟨segments, p', hlength, hhanded, hreach, hend⟩ :=
    exists_handOut hadmissible hstart.reachable times
  rw [List.nil_append] at hreach
  obtain ⟨hplan, hcourse⟩ := Level.onCourse_of_reachable hadmissible hreach
  -- fewer segments would mean that the level ended
  obtain rfl : segments.length = times := by
    by_contra hne
    have hleft := hreach.hasNext_eq_false hadmissible (hend (by omega))
    have hfinite := (Level.hasNext_eq_false_iff.mp hleft).1
    rw [hplan] at hfinite
    exact hfinite hendless
  refine ⟨segments, p', hhanded, rfl, fun hpos => ?_⟩
  rcases hcourse with ⟨rfl, -⟩ | ⟨kind, handed, hfollows⟩
  · exact absurd hpos (Nat.lt_irrefl 0)
  · have hitinerary := hfollows.itinerary
    rw [hplan] at hitinerary
    obtain ⟨templates, -, hisCourse⟩ := hitinerary.isCourse
    have hkind : kind ≠ .terminal := by
      rintro rfl
      exact hitinerary.handed_eq_of_terminal.1 hendless
    rw [if_neg hkind] at hisCourse
    exact ⟨templates, hisCourse⟩

/-! ## Phases -/

/-- Only a rewind takes a play back to an earlier phase. -/
theorem stage_le_of_perform (hadmissible : plan.blueprint.bosses.Admissible)
    (hplan : p.level.plan = plan) {call : Call} (hcall : call ≠ .rewind) :
    p.level.phase.stage ≤ (p.perform call).2.level.phase.stage := by
  subst hplan
  match call with
  | .next =>
    obtain ⟨answer, l', hnext, hstep⟩ := Level.exists_handsOut hadmissible
    simp only [perform, next_eq_ok_iff.mpr ⟨l', hnext, rfl⟩]
    exact Level.stage_le_of_handsOut hstep
  | .generate target =>
    cases hgenerate : p.generate target with
    | error fault => simp only [perform, hgenerate, le_refl]
    | ok done =>
      obtain ⟨s, g, -, hg, rfl⟩ := generate_eq_ok_iff.mp hgenerate
      obtain ⟨warnings, hruns, -⟩ := Level.builds_of_generate hg
      simp only [perform, hgenerate]
      -- the phase does not go back at any of the segments that are built
      refine builds_induction (P := fun _ l => p.level.phase.stage ≤ l.phase.stage) hadmissible
        (fun _ h hstep => h.trans (Level.stage_le_of_handsOut hstep)) ?_ hruns [] rfl
        le_rfl
      intro _ l state _ h hsame
      rwa [Level.phase_eq_of_sameCourse hsame]
  | .nextGap =>
    obtain ⟨gap, key, hgap, -⟩ := Level.nextGap_spec p.level
    simp only [perform, nextGap, hgap]
    exact (congrArg Phase.stage (Level.phase_eq_of_sameCourse ⟨rfl, rfl, rfl⟩)).ge
  | .rewind => exact absurd rfl hcall
  | .attach spawner => exact le_rfl

/-- A segment takes a play one phase further at most. -/
theorem Reachable.stage_le_succ_of_next (hadmissible : plan.blueprint.bosses.Admissible)
    (hreach : Reachable plan history p) :
    (p.perform .next).2.level.phase.stage ≤ p.level.phase.stage + 1 := by
  obtain ⟨rfl, hcourse⟩ := Level.onCourse_of_reachable hadmissible hreach
  obtain ⟨answer, l', hnext, hstep⟩ := Level.exists_handsOut hadmissible
  simp only [perform, next_eq_ok_iff.mpr ⟨l', hnext, rfl⟩]
  exact Level.stage_le_succ_of_handsOut hcourse hstep

end Runs

/-- The sequence of a level from its start on. A finite level hands out one course that ends with
its wall, and then nothing for ever; an endless level hands out segments for ever. Whatever else
was called in between, `next` answers nothing exactly where nothing is left, and the phases follow
each other in their order until the play is rewound. -/
theorem handedOut_sequence {plan : LevelPlan} (hfilled : plan.blueprint.Filled) {p : Play}
    (hstart : p.AtStart plan) :
    (¬ plan.blueprint.Endless →
      ∃ segments templates last,
        plan.blueprint.IsCourse segments templates [.endWall plan.blueprint.aliases] ∧
        templates.length = plan.blueprint.count ∧
        (1 ≤ plan.blueprint.count → segments.length ≤ 2 * plan.blueprint.count + 1) ∧
        ∀ times, ∃ p', p.handOut times = .ok ((segments.take times).map some ++
            List.replicate (times - segments.length) none, p') ∧
          (segments.length ≤ times → p' = last)) ∧
    (plan.blueprint.Endless → ∀ times,
      ∃ segments p', p.handOut times = .ok (segments.map some, p') ∧ segments.length = times ∧
        (0 < times → ∃ templates, plan.blueprint.IsCourse segments templates [])) ∧
    ∀ history q, Reachable plan history q →
      (∃ answer q', q.next = .ok (answer, q') ∧ (answer = none ↔ q.level.hasNext = false)) ∧
      (∀ call ≠ .rewind, q.level.phase.stage ≤ (q.perform call).2.level.phase.stage) ∧
      (q.perform .next).2.level.phase.stage ≤ q.level.phase.stage + 1 := by
  have hadmissible := hfilled.admissible
  refine ⟨?_, exists_handOut_of_endless hadmissible hstart, ?_⟩
  · intro hfinite
    obtain ⟨segments, templates, last, hhanded, hend, hcourse, hcount, hlength⟩ :=
      exists_course hadmissible hstart hfinite
    exact ⟨segments, templates, last, hcourse, hcount, hlength, handOut_eq_take hhanded hend⟩
  · intro history q hreach
    obtain ⟨answer, q', hnext, -, hnone⟩ := hreach.exists_next hadmissible
    have hplan := (Level.onCourse_of_reachable hadmissible hreach).1
    exact ⟨⟨answer, q', hnext, hnone⟩, fun _ => stage_le_of_perform hadmissible hplan,
      hreach.stage_le_succ_of_next hadmissible⟩

-- two templates and an arena between them: the longest course there is for two
example : ((start .meadow none).handOut 6).map (fun run => run.1.map (·.map Segment.kind)) =
    .ok [some .initial, some .regular, some .boss, some .regular, some .terminal, none] := by
  rfl

theorem handedOut_sequence_meadow :
    LevelPlan.meadow.blueprint.Filled ∧ (start .meadow none).AtStart .meadow ∧
      ∃ segments templates last,
        LevelPlan.meadow.blueprint.IsCourse segments templates [.endWall .empty] ∧
        templates.length = 2 ∧ segments.length ≤ 5 ∧
        ∀ times, ∃ p', (start .meadow none).handOut times =
            .ok ((segments.take times).map some ++
              List.replicate (times - segments.length) none, p') ∧
          (segments.length ≤ times → p' = last) := by
  have hfilled := LevelPlan.filled_meadow
  have hstart := atStart_start .meadow none
  have hfinite : ¬ LevelPlan.meadow.blueprint.Endless := by rintro ⟨hinfinite, -⟩; cases hinfinite
  obtain ⟨segments, templates, last, hcourse, hcount, hlength, hrun⟩ :=
    (handedOut_sequence hfilled hstart).1 hfinite
  exact ⟨hfilled, hstart, segments, templates, last, hcourse, hcount, hlength (by decide), hrun⟩

end Play

end LevelForge
