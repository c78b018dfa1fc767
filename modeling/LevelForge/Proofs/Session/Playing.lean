import LevelForge.Session.Run
import LevelForge.Proofs.Level.Sequence

/-!
# Playing in a session

A level of a session is called by its name. What it answers, and what becomes of it, depends on its
play alone, and of everything else in the session a call changes nothing but the level's spawner.

* `respond`: what a play answers to a call, without a session.
* `Store.Moved`: what a call of a level may change.
* `step_eq_respond`: a call in a session is answered as the play alone answers it.
-/

namespace LevelForge

/-! ## The plan of a play -/

namespace Level

/-- A level that hands out a block keeps its plan, whatever it draws for it. -/
theorem plan_eq_of_handOutTemplate {l l' : Level} {place : Nat} {segment : Segment}
    (h : l.handOutTemplate place = .ok (segment, l')) : l'.plan = l.plan := by
  have hindex : (l.nextIndex place).2.plan = l.plan := by
    unfold nextIndex
    split <;> rfl
  have hgap : (l.nextIndex place).2.nextGap.2.plan = (l.nextIndex place).2.plan := by
    unfold nextGap
    split <;> rfl
  unfold handOutTemplate at h
  dsimp only at h
  split at h
  · cases h
  · split at h
    · cases h
    · cases h
      exact hgap.trans hindex

/-- A level that hands out a segment keeps its plan. -/
theorem plan_eq_of_next {l l' : Level} {answer : Option Segment}
    (h : l.next = .ok (answer, l')) : l'.plan = l.plan := by
  unfold next at h
  dsimp only at h
  split at h
  · cases h; rfl
  · split at h
    · cases h; rfl
    · split at h
      · cases h; rfl
      · split at h
        · cases h
        · cases h; rfl
        · split at h
          · cases h
          · next hok => cases h; exact plan_eq_of_handOutTemplate hok

/-- A level that hands out segments one after the other keeps its plan. -/
theorem plan_eq_of_take {l l' : Level} {limit : Nat} {segments : List Segment}
    (h : l.take limit = .ok (segments, l')) : l'.plan = l.plan := by
  induction limit generalizing l segments with
  | zero => cases h; rfl
  | succ limit ih =>
    rw [take] at h
    cases hnext : l.next with
    | error fault => simp [hnext, bind, Except.bind] at h
    | ok answer =>
      obtain ⟨_ | segment, l₁⟩ := answer
      · simp only [hnext, bind, Except.bind] at h
        cases h
        exact plan_eq_of_next hnext
      · cases hmore : l₁.take limit with
        | error fault => simp [hnext, hmore, bind, Except.bind] at h
        | ok more =>
          simp only [hnext, hmore, bind, Except.bind] at h
          cases h
          exact (ih hmore).trans (plan_eq_of_next hnext)

/-- Building keeps the plan, whatever the boss rules are. -/
theorem Builds.keeps_plan {l l' : Level} {s s' : Spawner} {segments : List Segment}
    {warnings : List Warning} (h : l.Builds s segments warnings l' s') : l'.plan = l.plan := by
  induction h with
  | done => rfl
  | step hbuild _ ih =>
    obtain ⟨l₁, coins, key, hnext, hlevel, -⟩ := buildNext_spec hbuild
    have hplan := plan_eq_of_next hnext
    rw [ih, hlevel]
    exact hplan

end Level

namespace Session

open Operation

/-! ## Running operations -/

section Operations

variable {α β ε : Type} (p : Progress)

/-- Giving a value leaves the progress as it is. -/
@[simp]
theorem run_pure (value : α) : (pure value : Operation α).run p = (.ok value, p) := rfl

/-- What follows runs on from where the first operation ended, unless it failed. -/
@[simp]
theorem run_bind (x : Operation α) (f : α → Operation β) :
    (x >>= f).run p = match x.run p with
      | (.error fault, p') => (.error fault, p')
      | (.ok value, p') => (f value).run p' := by
  show (ExceptT.bindCont f (x.run p).1) (x.run p).2 = _
  rcases x.run p with ⟨_ | _, _⟩ <;> rfl

/-- Looking gives what is seen in the store as it is. -/
@[simp]
theorem run_look (f : Store → α) : (look f).run p = (.ok (f p.store), p) := rfl

/-- A result is given, or fails with its fault. -/
@[simp]
theorem run_lift (wrap : ε → Fault) (result : Except ε α) :
    (lift wrap result).run p = (result.mapError wrap, p) := by
  cases result <;> rfl

/-- An object is found by its name. -/
theorem run_object {name : String} {object : Object} (h : p.store.objects.get? name = some object) :
    (Operation.object (some name)).run p = (.ok object, p) := by
  have hget : (get : Operation Progress).run p = (.ok p, p) := rfl
  simp only [Operation.object, object?, run_bind, hget, h, run_pure]

end Operations

/-! ## The calls of a level -/

/-- What a level can be called for by its name. -/
inductive LevelCall where
  | next (times : Nat)
  | iterate (limit : Int)
  | generate (target : Int)
  | gap
  | rewind

/-- The action of a call. -/
def LevelCall.action : LevelCall → Action
  | .next times => .next times
  | .iterate limit => .iterate limit
  | .generate target => .generate target
  | .gap => .gap
  | .rewind => .rewind

/-- The answer of a play that went on, and the play afterwards. -/
def settle {α : Type} (p : Play) (reply : α → Reply) (warnings : α → List Warning) :
    Except Level.Fault (α × Play) → Answer × Play
  | .error fault => ({ reply := .error (.level fault), level := p.level }, p)
  | .ok (value, p') =>
    ({ reply := .ok (reply value), warnings := warnings value, level := p'.level }, p')

/-- What a play answers to a call, and the play afterwards: it depends on nothing else. -/
def respond (p : Play) : LevelCall → Answer × Play
  | .next times => settle p .segments (fun _ => []) (p.handOut times)
  | .iterate limit =>
    match Play.limitOf limit with
    | .error fault => ({ reply := .error (.limit fault), level := p.level }, p)
    | .ok limit =>
      settle p (fun segments => .segments (segments.map some)) (fun _ => []) (p.take limit)
  | .generate target =>
    settle p (fun built => .elements built.1) Prod.snd (Session.generate p target)
  | .gap => settle p .number (fun _ => []) (.ok p.nextGap)
  | .rewind => settle p id (fun _ => []) (.ok (.done, p.rewind))

/-- What a play became when it went on keeps its plan, and has a spawner if it had one. -/
def Keeps {α : Type} (p : Play) (result : Except Level.Fault (α × Play)) : Prop :=
  ∀ value p', result = .ok (value, p') →
    p'.level.plan = p.level.plan ∧ p'.spawner.isSome = p.spawner.isSome

/-- A play that hands out segments keeps its plan and its spawner. -/
theorem keeps_handOut (p : Play) (times : Nat) : Keeps p (p.handOut times) := by
  induction times generalizing p with
  | zero =>
    rintro value p' h
    cases h
    exact ⟨rfl, rfl⟩
  | succ times ih =>
    rintro answers p'' h
    obtain ⟨first, others, p', hnext, hmore, -⟩ := Play.handOut_succ_eq_ok_iff.mp h
    obtain ⟨l', hl', rfl⟩ := Play.next_eq_ok_iff.mp hnext
    obtain ⟨hplan, hspawner⟩ := ih _ others p'' hmore
    exact ⟨hplan.trans (Level.plan_eq_of_next hl'), hspawner⟩

/-- A play that is iterated keeps its plan and its spawner. -/
theorem keeps_take (p : Play) (limit : Nat) : Keeps p (p.take limit) := by
  rintro segments p' h
  rw [Play.take] at h
  cases htake : p.level.take limit with
  | error fault => simp [htake, bind, Except.bind] at h
  | ok taken =>
    simp only [htake, bind, Except.bind] at h
    cases h
    exact ⟨Level.plan_eq_of_take htake, rfl⟩

/-- A play that is built further keeps its plan, and has a spawner as before. -/
theorem keeps_generate (p : Play) (target : Int) : Keeps p (Session.generate p target) := by
  rintro built p' h
  rw [Session.generate] at h
  cases hgenerate : p.generate target with
  | error fault => simp [hgenerate, bind, Except.bind] at h
  | ok done =>
    obtain ⟨spawner, g, hspawner, hg, rfl⟩ := Play.generate_eq_ok_iff.mp hgenerate
    obtain ⟨warnings, hruns, -⟩ := Level.builds_of_generate hg
    simp only [hgenerate, bind, Except.bind] at h
    cases h
    exact ⟨hruns.keeps_plan, by rw [hspawner]; rfl⟩

/-- A play that draws a gap keeps its plan and its spawner. -/
theorem keeps_nextGap (p : Play) : Keeps p (.ok p.nextGap) := by
  obtain ⟨gap, key, hgap, -⟩ := Level.nextGap_spec p.level
  rintro width p' h
  rw [Play.nextGap, hgap] at h
  cases h
  exact ⟨rfl, rfl⟩

/-- A play that is rewound keeps its plan, and has a spawner as before. -/
theorem keeps_rewind (p : Play) (reply : Reply) : Keeps p (.ok (reply, p.rewind)) := by
  rintro value p' h
  cases h
  exact ⟨rfl, Option.isSome_map⟩

/-! ## Levels in a store -/

namespace Store

/-- A name is given to one object, and the other names stay. -/
theorem get?_name (s : Store) (name other : String) (object : Object) :
    (s.name name object).objects.get? other =
      if other = name then some object else s.objects.get? other :=
  Table.get?_insert s.objects name other object

/-- A change of a spawner makes no new one. -/
theorem size_setSpawner (s : Store) (ref : SpawnerRef) (spawner : Spawner) :
    (s.setSpawner ref spawner).spawners.size = s.spawners.size :=
  Array.size_setIfInBounds

/-- A spawner that is changed is found at its reference. -/
theorem spawner_setSpawner_self {s : Store} {ref : SpawnerRef} (h : ref.slot < s.spawners.size)
    (spawner : Spawner) : (s.setSpawner ref spawner).spawner ref = spawner := by
  simp [setSpawner, Store.spawner, Array.getD_eq_getD_getElem?, h]

/-- A change of a spawner leaves the others as they are. -/
theorem spawner_setSpawner_of_ne (s : Store) {ref other : SpawnerRef} (h : other ≠ ref)
    (spawner : Spawner) : (s.setSpawner ref spawner).spawner other = s.spawner other := by
  have hslot : ref.slot ≠ other.slot := fun heq => h (congrArg SpawnerRef.mk heq.symm)
  simp [setSpawner, Store.spawner, Array.getD_eq_getD_getElem?,
    Array.getElem?_setIfInBounds_ne hslot]

end Store

/-- The level of a name is the given play, and its spawner is the one that is referred to. -/
structure Store.Holds (s : Store) (name : String) (ref : Option SpawnerRef) (p : Play) : Prop where
  isPlay : ∃ plan state, s.objects.get? name = some (.play ⟨plan, ref, state⟩) ∧
    s.play ⟨plan, ref, state⟩ = p
  inBounds : ∀ r ∈ ref, r.slot < s.spawners.size

/-- What a call of the level of a name may change in a store: what the level holds, and nothing of
the blueprints, of other objects and of other spawners. -/
structure Store.Moved (s s' : Store) (name : String) (ref : Option SpawnerRef) (p' : Play) :
    Prop where
  holds : s'.Holds name ref p'
  blueprints : s'.blueprints = s.blueprints
  objects : ∀ other ≠ name, s'.objects.get? other = s.objects.get? other
  size : s'.spawners.size = s.spawners.size
  spawners : ∀ r, r ∉ ref → s'.spawner r = s.spawner r

section Calls

variable {s : Store} {name : String} {ref : Option SpawnerRef} {p : Play}

/-- A level of a session goes on as its play does, and is put back afterwards. -/
theorem withPlay_run {α : Type} {plan : SharedPlan} {state : LevelState}
    (h : s.objects.get? name = some (.play ⟨plan, ref, state⟩))
    (f : Play → Except Level.Fault (α × Play)) :
    (withPlay (some name) f).run { store := s } =
      match f (s.play ⟨plan, ref, state⟩) with
      | .error fault => (.error (.level fault), { store := s })
      | .ok (value, play) => (.ok value, { store := s.setPlay name ⟨plan, ref, state⟩ play }) := by
  rw [withPlay, run_bind, thePlay, run_bind, run_object _ h]
  simp only [run_pure, run_bind, run_look, run_lift]
  cases f (s.play ⟨plan, ref, state⟩) with
  | error fault => rfl
  | ok result => rfl

/-- A level that is refused has moved nowhere. -/
theorem Store.Holds.moved_refl (h : s.Holds name ref p) : s.Moved s name ref p :=
  ⟨h, rfl, fun _ _ => rfl, rfl, fun _ _ => rfl⟩

/-- A play that went on is put back into its parts, and into nothing else. -/
theorem Store.moved_setPlay {plan : SharedPlan} {state : LevelState} {p' : Play}
    (hplay : s.play ⟨plan, ref, state⟩ = p) (hbounds : ∀ r ∈ ref, r.slot < s.spawners.size)
    (hplan : p'.level.plan = p.level.plan) (hspawner : p'.spawner.isSome = p.spawner.isSome) :
    s.Moved (s.setPlay name ⟨plan, ref, state⟩ p') name ref p' := by
  subst hplay
  obtain ⟨⟨plan', state'⟩, spawner'⟩ := p'
  obtain rfl : plan' = s.plan plan := hplan
  have hnamed (object : Object) : (s.name name object).objects.get? name = some object := by
    rw [Store.get?_name, if_pos rfl]
  have hother (object : Object) : ∀ other ≠ name,
      (s.name name object).objects.get? other = s.objects.get? other := by
    intro other hne
    rw [Store.get?_name, if_neg hne]
  cases ref with
  | none =>
    obtain rfl : spawner' = none := Option.not_isSome_iff_eq_none.mp (Bool.not_eq_true _ ▸ hspawner)
    exact ⟨⟨⟨plan, state', hnamed _, rfl⟩, nofun⟩, rfl, hother _, rfl, fun _ _ => rfl⟩
  | some ref =>
    obtain ⟨spawner, rfl⟩ := Option.isSome_iff_exists.mp hspawner
    have hsize := s.size_setSpawner ref spawner
    refine ⟨⟨⟨plan, state', hnamed _, ?_⟩, fun r hr => (hbounds r hr).trans_eq hsize.symm⟩, rfl,
      hother _, hsize, fun r hr => ?_⟩
    · have hput := Store.spawner_setSpawner_self (hbounds ref rfl) spawner
      exact congrArg (fun own => (⟨⟨s.plan plan, state'⟩, some own⟩ : Play)) hput
    · exact s.spawner_setSpawner_of_ne (fun heq => hr (congrArg some heq.symm)) spawner

/-- A level that is asked to go on is refused, or moves. -/
theorem exists_run_withPlay {α : Type} (h : s.Holds name ref p)
    (f : Play → Except Level.Fault (α × Play)) (hkeeps : Keeps p (f p)) :
    (∃ fault, f p = .error fault ∧
      (withPlay (some name) f).run { store := s } = (.error (.level fault), { store := s })) ∨
    ∃ value p' s', f p = .ok (value, p') ∧ s.Moved s' name ref p' ∧
      (withPlay (some name) f).run { store := s } = (.ok value, { store := s' }) := by
  obtain ⟨⟨plan, state, hobject, rfl⟩, hbounds⟩ := h
  rw [withPlay_run hobject]
  cases hf : f (s.play ⟨plan, ref, state⟩) with
  | error fault => exact .inl ⟨fault, rfl, rfl⟩
  | ok result =>
    obtain ⟨hplan, hspawner⟩ := hkeeps _ _ hf
    exact .inr ⟨_, _, _, rfl, Store.moved_setPlay rfl hbounds hplan hspawner, rfl⟩

/-- The level of a name is that of the play which the name holds. -/
theorem levelOf?_of_holds (h : s.Holds name ref p) : levelOf? s (some name) = some p.level := by
  obtain ⟨⟨plan, state, hobject, rfl⟩, -⟩ := h
  simp only [levelOf?, Option.bind_eq_bind, Option.bind_some, hobject]

/-- A call of a level is an action on its name alone. -/
theorem step_eq_of_run (h : s.Holds name ref p) (call : LevelCall) {s' : Store} {p' : Play}
    {reply : Except Fault Reply} {warnings : Array Warning} (hmoved : s.Moved s' name ref p')
    (hrun : (perform (some name) none call.action).run { store := s } =
      (reply, { store := s', warnings })) :
    step s { on := name, name := none, action := call.action } =
      ({ reply, warnings := warnings.toList, level := p'.level }, s') := by
  obtain ⟨⟨plan, state, hobject, -⟩, -⟩ := h
  have hnamed : ((some name).toList ++ call.action.mentions).all s.objects.contains = true := by
    have hmentions : call.action.mentions = [] := by cases call <;> rfl
    rw [hmentions]
    simp [Table.contains, hobject]
  rw [step, if_pos hnamed, hrun]
  simp only [levelOf?_of_holds hmoved.holds]

/-- An operation that lets a level go on, and reports and answers what comes of it. -/
theorem step_eq_settle {α : Type} (h : s.Holds name ref p) (call : LevelCall)
    (f : Play → Except Level.Fault (α × Play)) (hkeeps : Keeps p (f p)) (reply : α → Reply)
    (warnings : α → List Warning)
    (hperform : perform (some name) none call.action = (do
      let value ← withPlay (some name) f
      warn (warnings value)
      return reply value)) :
    ∃ s', step s { on := name, name := none, action := call.action } =
        ((settle p reply warnings (f p)).1, s') ∧
      s.Moved s' name ref (settle p reply warnings (f p)).2 := by
  obtain ⟨fault, hf, hrun⟩ | ⟨value, p', s', hf, hmoved, hrun⟩ := exists_run_withPlay h f hkeeps
  · rw [hf]
    refine ⟨s, step_eq_of_run h call h.moved_refl ?_, h.moved_refl⟩
    rw [hperform, run_bind, hrun]
  · rw [hf]
    refine ⟨s', ?_, hmoved⟩
    rw [step_eq_of_run h call hmoved (by rw [hperform, run_bind, hrun]; rfl)]
    simp [settle]

/-- A call of a level in a session is answered as its play alone answers it, and moves only this
level. -/
theorem step_eq_respond (h : s.Holds name ref p) (call : LevelCall) :
    ∃ s', step s { on := name, name := none, action := call.action } =
        ((respond p call).1, s') ∧ s.Moved s' name ref (respond p call).2 := by
  cases call with
  | next times =>
    exact step_eq_settle h (.next times) (·.handOut times) (keeps_handOut p times) .segments
      (fun _ => []) rfl
  | iterate limit =>
    cases hlimit : Play.limitOf limit with
    | error fault =>
      rw [respond, hlimit]
      refine ⟨s, step_eq_of_run h (.iterate limit) h.moved_refl ?_, h.moved_refl⟩
      show (performLevel (some name) none (.iterate limit)).run { store := s } = _
      rw [performLevel, run_bind, run_lift, hlimit]
      rfl
    | ok limit' =>
      rw [respond, hlimit]
      refine step_eq_settle h (.iterate limit) (·.take limit') (keeps_take p limit')
        (fun segments => .segments (segments.map some)) (fun _ => []) ?_
      show performLevel (some name) none (.iterate limit) = _
      rw [performLevel, hlimit]
      rfl
  | generate target =>
    exact step_eq_settle h (.generate target) (Session.generate · target) (keeps_generate p target)
      (fun built => .elements built.1) Prod.snd rfl
  | gap =>
    exact step_eq_settle h .gap (fun play => .ok play.nextGap) (keeps_nextGap p) .number
      (fun _ => []) rfl
  | rewind =>
    refine step_eq_settle h .rewind (fun play => .ok (.done, play.rewind)) (keeps_rewind p .done) id
      (fun _ => []) ?_
    exact (bind_pure (withPlay (some name) fun play => .ok (Reply.done, play.rewind))).symm

end Calls

end Session

end LevelForge
