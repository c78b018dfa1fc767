import LevelForge.Level.Play
import LevelForge.Proofs.Level.Building

/-!
# Calls on a play

A play is used by calls, in any order and any number. Every call is answered, and a play is
reachable when calls lead to it from the start; beside it stands the history of the segments that
were handed out since the play was last at its start, whether alone or by a generation.

* `Play.perform`, `Play.performAll`: the effect of calls.
* `Play.Reachable`: the plays that calls lead to, with their histories.
* `Play.Reachable.induction_of_built`: what every step of a level and every segment that is built
  keep, holds in every reachable play.
* `Play.Reachable.induction`: the same for what does not depend on the frontier and the random
  streams of the level.
-/

namespace LevelForge

/-- Two states that agree on what decides about the kind of the next segment. -/
structure LevelState.SameCourse (s s' : LevelState) : Prop where
  cursor : s'.cursor = s.cursor
  units : s'.unitsBuilt = s.unitsBuilt
  mark : s'.lastUnitsBuilt = s.lastUnitsBuilt

namespace Play

/-- What can be asked of a play. -/
inductive Call where
  | next
  | generate (target : Int)
  | nextGap
  | rewind
  -- the spawner comes back from use elsewhere, or another one takes its place
  | attach (spawner : Option Spawner)

/-- A call that hands out or builds. -/
def Call.Proceeds (call : Call) : Prop := call = .next ∨ ∃ target, call = .generate target

/-- A call that leaves the spawner to the play. -/
def Call.IsOwn (call : Call) : Prop := ∀ spawner, call ≠ .attach spawner

/-- What lets a play go on is a call of its own. -/
theorem Call.Proceeds.isOwn {call : Call} (h : call.Proceeds) : call.IsOwn := by
  rintro spawner rfl
  rcases h with h | ⟨target, h⟩ <;> cases h

/-- What a play answers. -/
inductive Reply where
  | handedOut (segment : Option Segment)
  | built (segments : List Segment) (warnings : List Warning)
  | gap (width : Nat)
  | done
  | refused (fault : Level.Fault)

/-- The segments that a call handed out. -/
def Reply.segments : Reply → List Segment
  | .handedOut segment => segment.toList
  | .built segments _ => segments
  | _ => []

/-- The segments that a call built. -/
def Reply.builtSegments : Reply → List Segment
  | .built segments _ => segments
  | _ => []

/-- The effect of a call. A call that is refused changes nothing. -/
def perform (p : Play) : Call → Reply × Play
  | .next =>
    match p.next with
    | .ok (segment, p') => (.handedOut segment, p')
    | .error fault => (.refused fault, p)
  | .generate target =>
    match p.generate target with
    | .ok done => (.built done.segments done.warnings, done.play)
    | .error fault => (.refused fault, p)
  | .nextGap => (.gap p.nextGap.1, p.nextGap.2)
  | .rewind => (.done, p.rewind)
  | .attach spawner => (.done, { p with spawner })

/-- The effect of calls in order. -/
def performAll (p : Play) : List Call → List Reply × Play
  | [] => ([], p)
  | call :: rest =>
    let (reply, p') := p.perform call
    let (replies, p'') := p'.performAll rest
    (reply :: replies, p'')

/-- The segments handed out since the last start, after one more call. -/
def Call.extend (call : Call) (history : List Segment) (reply : Reply) : List Segment :=
  match call with
  | .rewind => []
  | _ => history ++ reply.segments

/-- The plays of a plan that calls lead to, each with the segments that were handed out since it
was last at its start. -/
inductive Reachable (plan : LevelPlan) : List Segment → Play → Prop
  | start (spawner : Option Spawner) : Reachable plan [] (Play.start plan spawner)
  | call {history : List Segment} {p : Play} (call : Call) :
      Reachable plan history p →
      Reachable plan (call.extend history (p.perform call).1) (p.perform call).2

/-- The play is at the start of a plan, new or rewound. -/
def AtStart (p : Play) (plan : LevelPlan) : Prop := p.level = Level.start plan

/-- A play that is started is at its start. -/
theorem atStart_start (plan : LevelPlan) (spawner : Option Spawner) :
    (start plan spawner).AtStart plan := rfl

/-- A play that is rewound is at its start. -/
theorem atStart_rewind (p : Play) : p.rewind.AtStart p.level.plan := rfl

/-- A play at its start is reachable, with nothing handed out. -/
theorem AtStart.reachable {p : Play} {plan : LevelPlan} (h : p.AtStart plan) :
    Reachable plan [] p := by
  have hstart : Reachable plan [] (start plan none) := .start none
  have hattached := hstart.call (.attach p.spawner)
  obtain ⟨level, spawner⟩ := p
  cases h
  exact hattached

/-- A play hands out what its level hands out, and keeps its spawner. -/
theorem next_eq_ok_iff {p p' : Play} {answer : Option Segment} :
    p.next = .ok (answer, p') ↔
      ∃ l', p.level.next = .ok (answer, l') ∧ p' = { p with level := l' } := by
  unfold next
  cases hnext : p.level.next with
  | error fault => simp [bind, Except.bind]
  | ok pair =>
    obtain ⟨answer', l'⟩ := pair
    simp only [bind, Except.bind, pure, Except.pure, Except.ok.injEq, Prod.mk.injEq]
    constructor
    · rintro ⟨rfl, rfl⟩
      exact ⟨l', ⟨rfl, rfl⟩, rfl⟩
    · rintro ⟨_, ⟨rfl, rfl⟩, rfl⟩
      exact ⟨rfl, rfl⟩

/-- A play is built if it has a spawner, as its level is built with it. -/
theorem generate_eq_ok_iff {p : Play} {target : Int} {done : Generated} :
    p.generate target = .ok done ↔
      ∃ s g, p.spawner = some s ∧ p.level.generate s target = .ok g ∧
        done = ⟨⟨g.level, some g.spawner⟩, g.segments.toList, g.warnings.toList⟩ := by
  unfold generate
  cases hspawner : p.spawner with
  | none => simp
  | some s =>
    cases hgenerate : p.level.generate s target with
    | error fault => simp [hgenerate, bind, Except.bind]
    | ok g => simp [hgenerate, bind, Except.bind, pure, Except.pure, eq_comm]

/-- A play with admissible boss rules answers every call, unless there is nothing to build with. -/
theorem refused_of_perform {p : Play} (hadmissible : p.level.plan.blueprint.bosses.Admissible)
    {call : Call} {fault : Level.Fault} (h : (p.perform call).1 = .refused fault) :
    fault = .noSpawner ∧ p.spawner = none := by
  cases call with
  | next =>
    obtain ⟨answer, l', hnext, -⟩ := Level.exists_handsOut hadmissible
    simp only [perform, next_eq_ok_iff.mpr ⟨l', hnext, rfl⟩] at h
    cases h
  | generate target =>
    cases hspawner : p.spawner with
    | none =>
      simp only [perform, generate, hspawner] at h
      cases h
      exact ⟨rfl, rfl⟩
    | some s =>
      obtain ⟨g, hg⟩ := Level.exists_generate hadmissible s target
      simp only [perform, generate_eq_ok_iff.mpr ⟨s, g, hspawner, hg, rfl⟩] at h
      cases h
  | nextGap => cases h
  | rewind => cases h
  | attach spawner => cases h

/-- Calls of its own leave a play its plan and its spawner, in whatever state. -/
theorem kept_of_perform {p : Play} (hadmissible : p.level.plan.blueprint.bosses.Admissible)
    {call : Call} (hcall : call.IsOwn) :
    (p.perform call).2.level.plan = p.level.plan ∧
      ((p.perform call).2.spawner = none → p.spawner = none) := by
  cases call with
  | next =>
    obtain ⟨answer, l', hnext, hhands⟩ := Level.exists_handsOut hadmissible
    simp only [perform, next_eq_ok_iff.mpr ⟨l', hnext, rfl⟩]
    exact ⟨hhands.plan_eq, id⟩
  | generate target =>
    cases hgenerate : p.generate target with
    | error fault => simp only [perform, hgenerate, true_and, imp_self]
    | ok done =>
      obtain ⟨s, g, -, hg, rfl⟩ := generate_eq_ok_iff.mp hgenerate
      obtain ⟨warnings, hruns, -⟩ := Level.builds_of_generate hg
      simp only [perform, hgenerate]
      exact ⟨hruns.plan_eq hadmissible, nofun⟩
  | nextGap =>
    obtain ⟨gap, key, hgap, -⟩ := Level.nextGap_spec p.level
    simp only [perform, nextGap, hgap]
    exact ⟨trivial, id⟩
  | rewind => exact ⟨rfl, Option.map_eq_none_iff.mp⟩
  | attach spawner => exact absurd rfl (hcall spawner)

/-- A play is refused nothing but to build without a spawner. -/
theorem refused_of_performAll {p : Play} (hadmissible : p.level.plan.blueprint.bosses.Admissible)
    {calls : List Call} (hcalls : ∀ call ∈ calls, call.IsOwn) {fault : Level.Fault}
    (h : .refused fault ∈ (p.performAll calls).1) : fault = .noSpawner ∧ p.spawner = none := by
  induction calls generalizing p with
  | nil => cases h
  | cons call rest ih =>
    obtain ⟨hplan, hspawner⟩ := kept_of_perform hadmissible (hcalls call List.mem_cons_self)
    rcases List.mem_cons.mp h with h | h
    · exact refused_of_perform hadmissible h.symm
    · obtain ⟨hfault, hnone⟩ := ih (hplan ▸ hadmissible)
        (fun other hother => hcalls other (List.mem_cons_of_mem _ hother)) h
      exact ⟨hfault, hspawner hnone⟩

section Induction

variable {plan : LevelPlan} {P : List Segment → Level → Prop}

/-- What handing a segment out and building it keeps, a run of built segments keeps. -/
theorem builds_induction_of_built (hadmissible : plan.blueprint.bosses.Admissible)
    (hbuilt : ∀ {history l segment l₁} (coins : Random.Key), l.plan = plan → P history l →
      l.HandsOut (some segment) l₁ → P (history ++ [segment])
        { l₁ with state :=
          { l₁.state with coins, frontier := l.state.frontier + segment.totalWidth } })
    {l l' : Level} {s s' : Spawner} {segments : List Segment} {warnings : List Warning}
    (hruns : l.Builds s segments warnings l' s') (history : List Segment) (hplan : l.plan = plan)
    (h : P history l) : P (history ++ segments) l' := by
  induction hruns generalizing history with
  | done =>
    rw [List.append_nil]
    exact h
  | @step l l' s s' built segments warnings hbuild _ ih =>
    subst hplan
    obtain ⟨l₁, coins, key, hnext, hlevel, -⟩ := Level.buildNext_spec hbuild
    have hhands := Level.handsOut_of_next hadmissible hnext
    have hafter : P (history ++ [built.segment]) built.level := by
      rw [hlevel]
      exact hbuilt coins rfl h hhands
    have hplan : built.level.plan = l.plan := by rw [hlevel]; exact hhands.plan_eq
    have := ih _ hplan hafter
    rwa [List.append_assoc, List.singleton_append] at this

/-- What every step keeps, a run of built segments keeps. -/
theorem builds_induction (hadmissible : plan.blueprint.bosses.Admissible)
    (hstep : ∀ {history l answer l'}, l.plan = plan → P history l → l.HandsOut answer l' →
      P (history ++ answer.toList) l')
    (haside : ∀ {history l state}, l.plan = plan → P history l → l.state.SameCourse state →
      P history { l with state })
    {l l' : Level} {s s' : Spawner} {segments : List Segment} {warnings : List Warning}
    (hruns : l.Builds s segments warnings l' s') (history : List Segment) (hplan : l.plan = plan)
    (h : P history l) : P (history ++ segments) l' :=
  -- building moves the frontier and draws coins, which `haside` passes over
  builds_induction_of_built hadmissible
    (fun _ hplan h hhands =>
      haside (hhands.plan_eq.trans hplan) (hstep hplan h hhands) ⟨rfl, rfl, rfl⟩)
    hruns history hplan h

/-- What holds at the start and is kept by every step of a level, by building what is handed out
and by a draw for a gap, holds of every reachable play and its history. -/
theorem Reachable.induction_of_built (hadmissible : plan.blueprint.bosses.Admissible)
    (hstart : P [] (Level.start plan))
    (hstep : ∀ {history l answer l'}, l.plan = plan → P history l → l.HandsOut answer l' →
      P (history ++ answer.toList) l')
    (hbuilt : ∀ {history l segment l₁} (coins : Random.Key), l.plan = plan → P history l →
      l.HandsOut (some segment) l₁ → P (history ++ [segment])
        { l₁ with state :=
          { l₁.state with coins, frontier := l.state.frontier + segment.totalWidth } })
    (hgap : ∀ {history l} (selection : Random.Key), l.plan = plan → P history l →
      P history { l with state := { l.state with selection } })
    {history : List Segment} {p : Play} (hreach : Reachable plan history p) :
    p.level.plan = plan ∧ P history p.level := by
  -- along the calls: a step for `next`, a run for `generate`, a draw for `nextGap`
  induction hreach with
  | start => exact ⟨rfl, hstart⟩
  | @call history p call _ ih =>
    obtain ⟨rfl, h⟩ := ih
    cases call with
    | next =>
      obtain ⟨answer, l', hnext, hhands⟩ := Level.exists_handsOut hadmissible
      have hok : p.next = .ok (answer, { p with level := l' }) :=
        next_eq_ok_iff.mpr ⟨l', hnext, rfl⟩
      simp only [perform, hok]
      exact ⟨hhands.plan_eq, hstep rfl h hhands⟩
    | generate target =>
      cases hgenerate : p.generate target with
      | error fault => simpa [perform, hgenerate, Call.extend, Reply.segments] using h
      | ok done =>
        obtain ⟨s, g, -, hg, rfl⟩ := generate_eq_ok_iff.mp hgenerate
        obtain ⟨warnings, hruns, -⟩ := Level.builds_of_generate hg
        simp only [perform, hgenerate]
        have hafter := builds_induction_of_built (P := P) hadmissible hbuilt hruns history rfl h
        exact ⟨hruns.plan_eq hadmissible, hafter⟩
    | nextGap =>
      obtain ⟨gap, key, hdrawn, -⟩ := Level.nextGap_spec p.level
      simp only [perform, nextGap, hdrawn, Call.extend, Reply.segments, List.append_nil]
      exact ⟨trivial, hgap key rfl h⟩
    | rewind => exact ⟨rfl, hstart⟩
    | attach spawner => simpa [perform, Call.extend, Reply.segments] using h

/-- What holds at the start, is kept by every step of a level and does not depend on its frontier
and random streams, holds of every reachable play and its history. -/
theorem Reachable.induction (hadmissible : plan.blueprint.bosses.Admissible)
    (hstart : P [] (Level.start plan))
    (hstep : ∀ {history l answer l'}, l.plan = plan → P history l → l.HandsOut answer l' →
      P (history ++ answer.toList) l')
    (haside : ∀ {history l state}, l.plan = plan → P history l → l.state.SameCourse state →
      P history { l with state })
    {history : List Segment} {p : Play} (hreach : Reachable plan history p) :
    p.level.plan = plan ∧ P history p.level :=
  hreach.induction_of_built hadmissible hstart hstep
    (fun _ hplan h hhands =>
      haside (hhands.plan_eq.trans hplan) (hstep hplan h hhands) ⟨rfl, rfl, rfl⟩)
    (fun _ hplan h => haside hplan h ⟨rfl, rfl, rfl⟩)

end Induction

end Play

end LevelForge
