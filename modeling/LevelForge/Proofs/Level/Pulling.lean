import LevelForge.Proofs.Filled
import LevelForge.Proofs.Level.Recast
import LevelForge.Proofs.Level.Sequence

/-!
# Pulling segments

Segments leave a level alone or inside a generation. Either way it is the same sequence: whatever
a generation changes besides, no later segment depends on it.

* `Play.Passes`: the levels that a run of calls passes through, also those inside a generation.
* `Level.IsBehind`: the level stands where handing out the same segments one by one leads.
* `Play.handedOut_agree`: any two ways to pull a level agree segment by segment.
-/

namespace LevelForge

namespace Level

/-- The level stands where handing out the given segments one by one from the start of a plan
leads. -/
def IsBehind (plan : LevelPlan) (handed : List Segment) (l : Level) : Prop :=
  ∃ q : Play, (Play.start plan none).handOut handed.length = .ok (handed.map some, q) ∧
    l.plan = q.level.plan ∧ l.state.SamePoint q.level.state

namespace IsBehind

variable {plan : LevelPlan} {handed : List Segment} {l l' : Level}

theorem start (plan : LevelPlan) : IsBehind plan [] (.start plan) :=
  ⟨Play.start plan none, rfl, rfl, .refl _⟩

/-- A level that differs elsewhere only stands at the same place. -/
theorem of_samePoint (h : IsBehind plan handed l) (hplan : l'.plan = l.plan)
    (hpoint : l'.state.SamePoint l.state) : IsBehind plan handed l' := by
  obtain ⟨q, hq, hqplan, hqpoint⟩ := h
  exact ⟨q, hq, hplan.trans hqplan, hpoint.trans hqpoint⟩

/-- The next segment leads one place further. -/
theorem next (h : IsBehind plan handed l) {segment : Segment}
    (hnext : l.next = .ok (some segment, l')) : IsBehind plan (handed ++ [segment]) l' := by
  obtain ⟨q, hq, hqplan, hqpoint⟩ := h
  obtain ⟨k, hk, hkplan, hkpoint⟩ := next_congr hqplan.symm hqpoint.symm hnext
  have hone : q.handOut 1 = .ok ([some segment], { q with level := k }) := by
    simp [Play.handOut, Play.next, hk, bind, Except.bind, pure, Except.pure]
  refine ⟨{ q with level := k }, ?_, hkplan.symm, hkpoint.symm⟩
  simpa using Play.handOut_append hq hone

theorem builds {s s' : Spawner} {segments : List Segment} {warnings : List Warning}
    (hruns : l.Builds s segments warnings l' s') (h : IsBehind plan handed l) :
    IsBehind plan (handed ++ segments) l' := by
  induction hruns generalizing handed with
  | done =>
    rw [List.append_nil]
    exact h
  | @step l l' s s' built segments warnings hbuild _ ih =>
    obtain ⟨l₁, coins, key, hnext, hlevel, -⟩ := buildNext_spec hbuild
    -- building the segment moves the frontier and draws coins
    have hbuilt : IsBehind plan (handed ++ [built.segment]) built.level :=
      (h.next hnext).of_samePoint (by rw [hlevel]) (by rw [hlevel]; exact ⟨rfl, rfl, rfl, rfl⟩)
    have := ih hbuilt
    rwa [List.append_assoc, List.singleton_append] at this

/-- There is one such list of each length, and one such place. -/
theorem unique {handed' : List Segment} (h : IsBehind plan handed l)
    (h' : IsBehind plan handed' l') (hlength : handed.length = handed'.length) :
    handed = handed' ∧ l.state.SamePoint l'.state := by
  obtain ⟨q, hq, -, hpoint⟩ := h
  obtain ⟨q', hq', -, hpoint'⟩ := h'
  rw [hlength, hq'] at hq
  simp only [Except.ok.injEq, Prod.mk.injEq] at hq
  obtain ⟨hsegments, rfl⟩ := hq
  exact ⟨(List.map_injective_iff.mpr (fun _ _ => Option.some.inj) hsegments).symm,
    hpoint.trans hpoint'.symm⟩

end IsBehind

/-- The segments of a run can be built up to each of them. -/
theorem Builds.exists_take {l l' : Level} {s s' : Spawner} {segments : List Segment}
    {warnings : List Warning} (h : l.Builds s segments warnings l' s') (k : Nat) :
    ∃ warnings' k' t, l.Builds s (segments.take k) warnings' k' t := by
  induction h generalizing k with
  | done l s => exact ⟨[], l, s, by simpa using .done l s⟩
  | @step l _ s _ _ _ _ hbuild _ ih =>
    cases k with
    | zero => exact ⟨[], l, s, .done l s⟩
    | succ k =>
      obtain ⟨warnings', k', t, hrest⟩ := ih k
      exact ⟨_, k', t, .step hbuild hrest⟩

end Level

namespace Play

/-- The segments that a run of calls hands out, alone or inside a generation. -/
def handedOut (p : Play) (calls : List Call) : List Segment :=
  (p.performAll calls).1.flatMap Reply.segments

/-- The levels that a run of calls passes through, each with the segments that were handed out until
then: those between two calls, and inside a generation those between two of its segments. -/
inductive Passes : Play → List Call → List Segment → Level → Prop
  | here (p : Play) (calls : List Call) : Passes p calls [] p.level
  | inside {p : Play} {s s' : Spawner} {target : Int} {done : Generated} {segments : List Segment}
      {warnings : List Warning} {l : Level} (rest : List Call) :
      p.spawner = some s → p.generate target = .ok done → segments <+: done.segments →
      p.level.Builds s segments warnings l s' → Passes p (.generate target :: rest) segments l
  | behind {p : Play} {handed : List Segment} {l : Level} (call : Call) {rest : List Call} :
      Passes (p.perform call).2 rest handed l →
      Passes p (call :: rest) ((p.perform call).1.segments ++ handed) l

/-- Only a generation hands out more than one segment; behind each of them it can be left. -/
theorem exists_passes_of_lt (p : Play) (call : Call) (rest : List Call) {k : Nat}
    (hk : k < (p.perform call).1.segments.length) :
    ∃ l, p.Passes (call :: rest) ((p.perform call).1.segments.take k) l := by
  rcases Nat.eq_zero_or_pos k with rfl | hpos
  · exact ⟨p.level, .here p _⟩
  cases call with
  | next =>
    simp only [perform] at hk
    split at hk
    · next answer _ _ =>
      have hle : answer.toList.length ≤ 1 := by cases answer <;> simp
      exact absurd (hk.trans_le hle) (Nat.not_lt.mpr hpos)
    · cases hk
  | generate target =>
    simp only [perform] at hk ⊢
    cases hgenerate : p.generate target with
    | error fault => simp [hgenerate, Reply.segments] at hk
    | ok done =>
      obtain ⟨s, g, hspawner, hg, rfl⟩ := generate_eq_ok_iff.mp hgenerate
      obtain ⟨warnings, hruns, -⟩ := Level.builds_of_generate hg
      obtain ⟨warnings', l, s', hpart⟩ := hruns.exists_take k
      exact ⟨l, .inside rest hspawner hgenerate (List.take_prefix k _) hpart⟩
  | nextGap => cases hk
  | rewind => cases hk
  | attach spawner => cases hk

/-- A run passes through a level behind each of its segments. -/
theorem exists_passes (p : Play) (calls : List Call) {k : Nat}
    (hk : k ≤ (p.handedOut calls).length) : ∃ l, p.Passes calls ((p.handedOut calls).take k) l := by
  induction calls generalizing p k with
  | nil => exact ⟨p.level, by simpa [handedOut, performAll] using .here p []⟩
  | cons call rest ih =>
    have hsplit : p.handedOut (call :: rest) =
        (p.perform call).1.segments ++ (p.perform call).2.handedOut rest := rfl
    rw [hsplit] at hk ⊢
    rcases Nat.lt_or_ge k (p.perform call).1.segments.length with hlt | hle
    · rw [List.take_append_of_le_length hlt.le]
      exact exists_passes_of_lt p call rest hlt
    · obtain ⟨more, rfl⟩ := Nat.exists_eq_add_of_le hle
      rw [List.length_append] at hk
      obtain ⟨l, hl⟩ := ih (p.perform call).2 (Nat.le_of_add_le_add_left hk)
      refine ⟨l, ?_⟩
      rw [List.take_length_add_append]
      exact .behind call hl

/-- A run of calls that hand out or build leads, at every place, where handing out the same segments
one by one leads. -/
theorem Passes.isBehind {plan : LevelPlan} (hadmissible : plan.blueprint.bosses.Admissible)
    {p : Play} {calls : List Call} {handed before : List Segment} {l : Level}
    (h : p.Passes calls handed l) (hplan : p.level.plan = plan)
    (hbefore : Level.IsBehind plan before p.level) (hcalls : ∀ call ∈ calls, call.Proceeds) :
    Level.IsBehind plan (before ++ handed) l := by
  induction h generalizing before with
  | here =>
    rw [List.append_nil]
    exact hbefore
  | inside rest _ _ _ hruns => exact hbefore.builds hruns
  | @behind p handed l call rest _ ih =>
    rw [← List.append_assoc]
    have hrest : ∀ call' ∈ rest, call'.Proceeds := fun call' hcall' =>
      hcalls call' (List.mem_cons_of_mem _ hcall')
    rcases hcalls call List.mem_cons_self with rfl | ⟨target, rfl⟩
    · subst hplan
      obtain ⟨answer, l', hnext, hhands⟩ := Level.exists_handsOut hadmissible
      simp only [perform, next_eq_ok_iff.mpr ⟨l', hnext, rfl⟩] at ih ⊢
      refine ih hhands.plan_eq ?_ hrest
      cases answer with
      | some segment => exact hbefore.next hnext
      | none =>
        cases hhands with
        | exhausted =>
          rw [Reply.segments, Option.toList_none, List.append_nil]
          exact hbefore
    · cases hgenerate : p.generate target with
      | error fault =>
        simp only [perform, hgenerate, Reply.segments, List.append_nil] at ih ⊢
        exact ih hplan hbefore hrest
      | ok done =>
        subst hplan
        obtain ⟨s, g, -, hg, rfl⟩ := generate_eq_ok_iff.mp hgenerate
        obtain ⟨warnings, hruns, -⟩ := Level.builds_of_generate hg
        simp only [perform, hgenerate] at ih ⊢
        exact ih (hruns.plan_eq hadmissible) (hbefore.builds hruns) hrest

theorem Passes.isBehind_of_atStart {plan : LevelPlan} (hfilled : plan.blueprint.Filled) {p : Play}
    (hstart : p.AtStart plan) {calls : List Call} (hcalls : ∀ call ∈ calls, call.Proceeds)
    {handed : List Segment} {l : Level} (h : p.Passes calls handed l) :
    Level.IsBehind plan handed l := by
  have hbefore : Level.IsBehind plan [] p.level := hstart.symm ▸ .start plan
  exact h.isBehind hfilled.admissible (congrArg Level.plan hstart) hbefore hcalls

/-- Two plays of one plan, pulled in any two ways from their starts on, with any spawners or none,
hand out the same segments in the same order; and wherever as many were handed out, between two
calls or inside a generation, both stand at the same point of the sequence. Only a generation with
nothing to build with is refused. -/
theorem handedOut_agree {plan : LevelPlan} (hfilled : plan.blueprint.Filled) {p q : Play}
    (hp : p.AtStart plan) (hq : q.AtStart plan) {calls calls' : List Call}
    (hcalls : ∀ call ∈ calls, call.Proceeds) (hcalls' : ∀ call ∈ calls', call.Proceeds) :
    (∀ fault, .refused fault ∈ (p.performAll calls).1 →
      fault = .noSpawner ∧ p.spawner = none) ∧
    (∀ k, k < (p.handedOut calls).length → k < (q.handedOut calls').length →
      (p.handedOut calls)[k]? = (q.handedOut calls')[k]?) ∧
    ∀ handed l handed' l', p.Passes calls handed l → q.Passes calls' handed' l' →
      handed.length = handed'.length → handed = handed' ∧ l.state.SamePoint l'.state := by
  have hpoints : ∀ handed l handed' l', p.Passes calls handed l → q.Passes calls' handed' l' →
      handed.length = handed'.length → handed = handed' ∧ l.state.SamePoint l'.state :=
    fun handed l handed' l' h h' hlength =>
      (h.isBehind_of_atStart hfilled hp hcalls).unique
        (h'.isBehind_of_atStart hfilled hq hcalls') hlength
  have hadmissible : p.level.plan.blueprint.bosses.Admissible := by
    rw [show p.level.plan = plan from congrArg Level.plan hp]
    exact hfilled.admissible
  have hown : ∀ call ∈ calls, call.IsOwn := fun call hcall => (hcalls call hcall).isOwn
  refine ⟨fun fault => refused_of_performAll hadmissible hown, fun k hk hk' => ?_, hpoints⟩
  -- both runs pass through a level behind the segment
  obtain ⟨l, hl⟩ := exists_passes p calls (Nat.succ_le_of_lt hk)
  obtain ⟨l', hl'⟩ := exists_passes q calls' (Nat.succ_le_of_lt hk')
  have hsame := (hpoints _ l _ l' hl hl' (by simp; omega)).1
  rw [← List.getElem?_take_of_lt (Nat.lt_succ_self k), hsame,
    List.getElem?_take_of_lt (Nat.lt_succ_self k)]

theorem handedOut_agree_meadow :
    LevelPlan.meadow.blueprint.Filled ∧ (start .meadow none).AtStart .meadow ∧
      (start .meadow (some .create)).AtStart .meadow ∧
      ∀ handed l handed' l', (start .meadow none).Passes [.next, .next, .next] handed l →
        (start .meadow (some .create)).Passes [.next, .generate 40, .next] handed' l' →
        handed.length = handed'.length → handed = handed' ∧ l.state.SamePoint l'.state := by
  have halone : ∀ call ∈ [Call.next, .next, .next], call.Proceeds := by simp [Call.Proceeds]
  have hbuilt : ∀ call ∈ [Call.next, .generate 40, .next], call.Proceeds := by
    simp [Call.Proceeds]
  have hp := atStart_start .meadow none
  have hq := atStart_start .meadow (some .create)
  exact ⟨LevelPlan.filled_meadow, hp, hq,
    (handedOut_agree LevelPlan.filled_meadow hp hq halone hbuilt).2.2⟩

end Play

end LevelForge
