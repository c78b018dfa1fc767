import LevelForge.Proofs.Level.Incremental
import Mathlib.Data.List.Forall2

/-!
# Playing in step

Two plays are in step when the same calls get like answers from both. It suffices to look at single
steps: a relation between two levels with their spawners that handing out one segment, building one
segment, drawing a gap and starting over keep, is kept by all calls of the plays' own. Beside the
relation stands what was noted down, on the side of the second play, for every segment built.

* `Level.Lockstep`: a relation that single steps keep.
* `Level.Lockstep.generate`: generations in step.
* `Level.Lockstep.performAll`: any calls in step.
-/

namespace LevelForge

namespace Play

/-- Two answers that are the same but for their segments, which are alike. -/
inductive Reply.Alike (alike : Segment → Segment → Prop) : Reply → Reply → Prop
  | handedOut {answer answer' : Option Segment} :
      Option.Rel alike answer answer' → Alike alike (.handedOut answer) (.handedOut answer')
  | built {segments segments' : List Segment} (warnings : List Warning) :
      List.Forall₂ alike segments segments' →
      Alike alike (.built segments warnings) (.built segments' warnings)
  | gap (width : Nat) : Alike alike (.gap width) (.gap width)
  | done : Alike alike .done .done

end Play

variable {ε : Type}

/-- What is noted down while the next segments are built, `times` of them. -/
def Level.notes (note : Level → Spawner → List ε) (l : Level) (s : Spawner) : (times : Nat) → List ε
  | 0 => []
  | times + 1 =>
    match l.buildNext s with
    | .ok (some built) => note l s ++ built.level.notes note built.spawner times
    | _ => []

/-- What is noted down for the segments that calls build. -/
def Play.notes (note : Level → Spawner → List ε) (p : Play) : List Play.Call → List ε
  | [] => []
  | call :: rest =>
    let (reply, p') := p.perform call
    (match p.spawner with
      | none => []
      | some s => p.level.notes note s reply.builtSegments.length) ++ p'.notes note rest

namespace Level

/-- The notes of a run are those of its first segment and of the rest. -/
theorem notes_of_buildNext (note : Level → Spawner → List ε) {l : Level} {s : Spawner}
    {built : Built} (h : l.buildNext s = .ok (some built)) (times : Nat) :
    l.notes note s (times + 1) = note l s ++ built.level.notes note built.spawner times := by
  rw [notes, h]

/-- A relation between levels with their spawners, and what was noted down so far, that single steps
keep. -/
structure Lockstep (alike : Segment → Segment → Prop) (note : Level → Spawner → List ε)
    (R : List ε → Level → Spawner → Level → Spawner → Prop) : Prop where
  -- generations go on, stop and warn at the same places
  levelId : ∀ {noted l s m t}, R noted l s m t → l.plan.levelId = m.plan.levelId
  count : ∀ {noted l s m t}, R noted l s m t → l.count = m.count
  hasNext : ∀ {noted l s m t}, R noted l s m t → l.hasNext = m.hasNext
  frontier : ∀ {noted l s m t}, R noted l s m t → l.state.frontier = m.state.frontier
  -- single steps are answered, in like ways, and keep the relation
  next : ∀ {noted l s m t}, R noted l s m t → ∃ answer l' answer' m',
    l.next = .ok (answer, l') ∧ m.next = .ok (answer', m') ∧ Option.Rel alike answer answer' ∧
    R noted l' s m' t
  build : ∀ {noted l s m t segment m'}, R noted l s m t → m.next = .ok (some segment, m') →
    ∃ built built', l.buildNext s = .ok (some built) ∧ m.buildNext t = .ok (some built') ∧
    alike built.segment built'.segment ∧ built.width = built'.width ∧
    built.warnings = built'.warnings ∧
    R (noted ++ note m t) built.level built.spawner built'.level built'.spawner
  nextGap : ∀ {noted l s m t}, R noted l s m t → l.nextGap.1 = m.nextGap.1 ∧
    R noted l.nextGap.2 s m.nextGap.2 t
  rewind : ∀ {noted l s m t}, R noted l s m t →
    R noted l.rewind (s.reseed l.rewind.state.elements) m.rewind
      (t.reseed m.rewind.state.elements)

namespace Lockstep

variable {alike : Segment → Segment → Prop} {note : Level → Spawner → List ε}
  {R : List ε → Level → Spawner → Level → Spawner → Prop}

/-- Two generations in step. -/
structure Alongside (alike : Segment → Segment → Prop)
    (R : List ε → Level → Spawner → Level → Spawner → Prop) (noted : List ε) (g g' : Generation) :
    Prop where
  related : R noted g.level g.spawner g'.level g'.spawner
  segments : List.Forall₂ alike g.segments.toList g'.segments.toList
  warnings : g.warnings = g'.warnings

/-- Generations side by side stay so when both build a segment. -/
theorem Alongside.add {noted noted' : List ε} {g g' : Generation} {built built' : Built}
    (h : Alongside alike R noted g g') (hsegment : alike built.segment built'.segment)
    (hwarnings : built.warnings = built'.warnings)
    (hrelated : R noted' built.level built.spawner built'.level built'.spawner) :
    Alongside alike R noted' (g.add built) (g'.add built') where
  related := hrelated
  segments := by
    rw [Generation.segments_add, Generation.segments_add]
    exact List.rel_append h.segments (.cons hsegment .nil)
  warnings := by simp only [Generation.add, h.warnings, hwarnings]

/-- Of two generations side by side one goes on exactly if the other does. -/
theorem isOpen_iff (h : Lockstep alike note R) {noted : List ε} {g g' : Generation}
    (halong : Alongside alike R noted g g') (target : Int) :
    g.IsOpen target ↔ g'.IsOpen target := by
  unfold Generation.IsOpen
  rw [h.frontier halong.related, h.hasNext halong.related]

/-- Both levels have the next segment built, or none has one left. -/
theorem buildNext (h : Lockstep alike note R) {noted : List ε} {l m : Level} {s t : Spawner}
    (hR : R noted l s m t) :
    (l.buildNext s = .ok none ∧ m.buildNext t = .ok none) ∨
      ∃ built built', l.buildNext s = .ok (some built) ∧ m.buildNext t = .ok (some built') ∧
        alike built.segment built'.segment ∧ built.width = built'.width ∧
        built.warnings = built'.warnings ∧
        R (noted ++ note m t) built.level built.spawner built'.level built'.spawner := by
  obtain ⟨answer, l', answer', m', hl, hm, hrel, -⟩ := h.next hR
  cases hrel with
  | none => exact .inl ⟨by rw [Level.buildNext, hl]; rfl, by rw [Level.buildNext, hm]; rfl⟩
  | some => exact .inr (h.build hR hm)

/-- One more segment in both generations. -/
theorem add (h : Lockstep alike note R) {noted : List ε} {g g' : Generation} {built' : Built}
    (halong : Alongside alike R noted g g')
    (hbuild' : g'.level.buildNext g'.spawner = .ok (some built')) :
    ∃ built, g.level.buildNext g.spawner = .ok (some built) ∧ built.width = built'.width ∧
      Alongside alike R (noted ++ note g'.level g'.spawner) (g.add built) (g'.add built') := by
  rcases h.buildNext halong.related with ⟨-, hnone⟩ | ⟨built, _, hbuild, hsome, hsegment, hwidth,
    hwarnings, hrelated⟩
  · rw [hbuild'] at hnone
    cases hnone
  · rw [hbuild'] at hsome
    cases hsome
    exact ⟨built, hbuild, hwidth, halong.add hsegment hwarnings hrelated⟩

/-- Generations in step build alike, and end in step. -/
theorem generateFrom (h : Lockstep alike note R) (target : Int) (limit stalled : Nat)
    {noted : List ε} {g g' : Generation} (halong : Alongside alike R noted g g') :
    ∃ k k' times, Level.generateFrom target limit stalled g = .ok k ∧
      Level.generateFrom target limit stalled g' = .ok k' ∧
      k'.segments.size = g'.segments.size + times ∧
      Alongside alike R (noted ++ g'.level.notes note g'.spawner times) k k' := by
  -- along the second generation; the first one takes the same branch each time
  fun_induction Level.generateFrom target limit stalled g' generalizing noted g with
  | case1 stalled g' hopen fault hbuild' =>
    rcases h.buildNext halong.related with ⟨-, hnone⟩ | ⟨_, _, -, hsome, -⟩
    · rw [hbuild'] at hnone; cases hnone
    · rw [hbuild'] at hsome; cases hsome
  | case2 stalled g' hopen hbuild' =>
    rcases h.buildNext halong.related with ⟨hbuild, -⟩ | ⟨_, _, -, hsome, -⟩
    · exact ⟨g, g', 0, generateFrom_of_none hbuild, rfl, rfl, by simpa [notes] using halong⟩
    · rw [hbuild'] at hsome; cases hsome
  | case3 stalled g' hopen built' hbuild' g₁ hwidth' =>
    rename_i hlimit
    obtain ⟨built, hbuild, hwidth, hadd⟩ := h.add halong hbuild'
    rw [generateFrom_of_some ((h.isOpen_iff halong target).mpr hopen) hbuild,
      if_pos (hwidth.trans hwidth'), if_pos hlimit]
    refine ⟨_, _, 1, rfl, rfl, ?_, ?_⟩
    · simp [g₁, Generation.add]
    · rw [notes_of_buildNext note hbuild', notes, List.append_nil]
      exact ⟨hadd.related, hadd.segments, by rw [hadd.warnings, h.levelId halong.related]⟩
  | case4 stalled g' hopen built' hbuild' g₁ hwidth' hlimit =>
    rename_i ih
    obtain ⟨built, hbuild, hwidth, hadd⟩ := h.add halong hbuild'
    rw [generateFrom_of_some ((h.isOpen_iff halong target).mpr hopen) hbuild,
      if_pos (hwidth.trans hwidth'), if_neg hlimit]
    obtain ⟨k, k', times, hk, hk', hsize, hend⟩ := ih hadd
    refine ⟨k, k', times + 1, hk, hk', ?_, ?_⟩
    · simp only [hsize, g₁, Generation.add, Array.size_push]
      omega
    · rwa [notes_of_buildNext note hbuild', ← List.append_assoc]
  | case5 stalled g' hopen built' hbuild' g₁ hwidth' =>
    rename_i ih
    obtain ⟨built, hbuild, hwidth, hadd⟩ := h.add halong hbuild'
    rw [generateFrom_of_some ((h.isOpen_iff halong target).mpr hopen) hbuild,
      if_neg (hwidth ▸ hwidth')]
    obtain ⟨k, k', times, hk, hk', hsize, hend⟩ := ih hadd
    refine ⟨k, k', times + 1, hk, hk', ?_, ?_⟩
    · simp only [hsize, g₁, Generation.add, Array.size_push]
      omega
    · rwa [notes_of_buildNext note hbuild', ← List.append_assoc]
  | case6 stalled g' hclosed =>
    have hclosed' : ¬ g.IsOpen target := (h.isOpen_iff halong target).not.mpr hclosed
    exact ⟨g, g', 0, generateFrom_of_not_isOpen hclosed', rfl, rfl, by simpa [notes] using halong⟩

section Plays

variable (h : Lockstep alike note R) {noted : List ε} {l m : Level} {s t : Spawner}
  (hR : R noted l s m t)

include h hR

/-- Plays in lockstep are built alike, up to any column. -/
theorem generate (target : Int) : ∃ segments l' s' segments' m' t' warnings,
    (⟨l, some s⟩ : Play).generate target = .ok ⟨⟨l', some s'⟩, segments, warnings⟩ ∧
    (⟨m, some t⟩ : Play).generate target = .ok ⟨⟨m', some t'⟩, segments', warnings⟩ ∧
    List.Forall₂ alike segments segments' ∧
    R (noted ++ m.notes note t segments'.length) l' s' m' t' := by
  have hstart : Alongside alike R noted { level := l, spawner := s } { level := m, spawner := t } :=
    ⟨hR, .nil, rfl⟩
  obtain ⟨k, k', times, hk, hk', hsize, hend⟩ := h.generateFrom target (m.count + 1) 0 hstart
  have hl : l.generate s target = .ok k := by rw [Level.generate, h.count hR, hk]
  have hm : m.generate t target = .ok k' := hk'
  have hlength : k'.segments.toList.length = times := by simpa using hsize
  refine ⟨_, k.level, k.spawner, _, k'.level, k'.spawner, k.warnings.toList,
    Play.generate_eq_ok_iff.mpr ⟨s, k, rfl, hl, rfl⟩, ?_, hend.segments, ?_⟩
  · exact Play.generate_eq_ok_iff.mpr ⟨t, k', rfl, hm, by rw [hend.warnings]⟩
  · rw [hlength]
    exact hend.related

/-- One call in step. -/
theorem perform {call : Play.Call} (hcall : call.IsOwn) : ∃ reply l' s' reply' m' t',
    (⟨l, some s⟩ : Play).perform call = (reply, ⟨l', some s'⟩) ∧
    (⟨m, some t⟩ : Play).perform call = (reply', ⟨m', some t'⟩) ∧ reply.Alike alike reply' ∧
    R (noted ++ m.notes note t reply'.builtSegments.length) l' s' m' t' := by
  -- only a generation notes anything down
  have hsilent {l' m' s' t'} (hR' : R noted l' s' m' t') :
      R (noted ++ m.notes note t 0) l' s' m' t' := by
    rwa [notes, List.append_nil]
  cases call with
  | next =>
    obtain ⟨answer, l', answer', m', hl, hm, hanswer, hR'⟩ := h.next hR
    have hp : (⟨l, some s⟩ : Play).next = .ok (answer, ⟨l', some s⟩) :=
      Play.next_eq_ok_iff.mpr ⟨l', hl, rfl⟩
    have hq : (⟨m, some t⟩ : Play).next = .ok (answer', ⟨m', some t⟩) :=
      Play.next_eq_ok_iff.mpr ⟨m', hm, rfl⟩
    refine ⟨.handedOut answer, l', s, .handedOut answer', m', t, ?_, ?_, .handedOut hanswer,
      hsilent hR'⟩
    · rw [Play.perform, hp]
    · rw [Play.perform, hq]
  | generate target =>
    obtain ⟨segments, l', s', segments', m', t', warnings, hp, hq, hsegments, hR'⟩ :=
      h.generate hR target
    refine ⟨.built segments warnings, l', s', .built segments' warnings, m', t', ?_, ?_,
      .built warnings hsegments, hR'⟩
    · rw [Play.perform, hp]
    · rw [Play.perform, hq]
  | nextGap =>
    obtain ⟨hwidth, hR'⟩ := h.nextGap hR
    refine ⟨.gap m.nextGap.1, l.nextGap.2, s, .gap m.nextGap.1, m.nextGap.2, t, ?_, rfl, .gap _,
      hsilent hR'⟩
    rw [← hwidth]
    rfl
  | rewind => exact ⟨.done, l.rewind, _, .done, m.rewind, _, rfl, rfl, .done, hsilent (h.rewind hR)⟩
  | attach spawner => exact absurd rfl (hcall spawner)

/-- Any calls in step. -/
theorem performAll {calls : List Play.Call} (hcalls : ∀ call ∈ calls, call.IsOwn) :
    ∃ replies l' s' replies' m' t',
      (⟨l, some s⟩ : Play).performAll calls = (replies, ⟨l', some s'⟩) ∧
      (⟨m, some t⟩ : Play).performAll calls = (replies', ⟨m', some t'⟩) ∧
      List.Forall₂ (Play.Reply.Alike alike) replies replies' ∧
      R (noted ++ (⟨m, some t⟩ : Play).notes note calls) l' s' m' t' := by
  induction calls generalizing noted l m s t with
  | nil => exact ⟨[], l, s, [], m, t, rfl, rfl, .nil, by simpa [Play.notes] using hR⟩
  | cons call rest ih =>
    obtain ⟨reply, l₁, s₁, reply', m₁, t₁, hp, hq, hreply, hR₁⟩ :=
      h.perform hR (hcalls call List.mem_cons_self)
    obtain ⟨replies, l', s', replies', m', t', hps, hqs, hreplies, hR'⟩ :=
      ih hR₁ fun other hother => hcalls other (List.mem_cons_of_mem _ hother)
    refine ⟨reply :: replies, l', s', reply' :: replies', m', t', ?_, ?_, .cons hreply hreplies, ?_⟩
    · rw [Play.performAll, hp]
      dsimp only
      rw [hps]
    · rw [Play.performAll, hq]
      dsimp only
      rw [hqs]
    · rw [Play.notes, hq]
      dsimp only
      rwa [← List.append_assoc]

end Plays

end Lockstep

end Level

end LevelForge
