import Mathlib.Logic.Function.Basic
import LevelForge.Proofs.Session.Playing

/-!
# Levels that share a blueprint

Any number of levels may be played over one blueprint. As long as each has a spawner of its own they
do not interfere: in whatever order they are called, and whatever becomes of the segments that they
have handed out, each answers as it would alone.

* `Store.Hosts`: levels of a session, no two of which share a spawner.
* `Store.Hosts.newLevel`: a level that is started with a new spawner joins them.
* `Store.Hosts.happen`: what one event leaves of them.
* `Store.answersTo_eq_alone`: in any interleaving every level answers as it would alone.
-/

namespace LevelForge.Session

open Operation

/-- Levels of a session, with the spawners that they refer to and the plays that they are. No two of
them refer to one spawner; they may well share a blueprint. -/
structure Store.Hosts (s : Store) (levels : List String) (refs : String → Option SpawnerRef)
    (plays : String → Play) : Prop where
  holds : ∀ level ∈ levels, s.Holds level (refs level) (plays level)
  own : ∀ level ∈ levels, ∀ other ∈ levels, ∀ ref ∈ refs level, ref ∈ refs other → level = other

/-! ## Events -/

/-- What happens while levels are played. -/
inductive Event where
  -- a level is called
  | call (level : String) (call : LevelCall)
  -- a segment that was handed out is kept under a name
  | keep (name : String) (segment : Segment) (source : Option BlueprintRef)
  -- the gap of a segment that was kept is changed
  | setGap (name : String) (width : Int)

namespace Event

/-- The event calls one of some levels, or is about something else than these. -/
def IsAmong (levels : List String) : Event → Prop
  | .call level _ => level ∈ levels
  | .keep name .. => name ∉ levels
  | .setGap name _ => name ∉ levels

/-- The call of a level that an event is, if it is one. -/
def callOf? (level : String) : Event → Option LevelCall
  | .call other asked => if other = level then some asked else none
  | _ => none

/-- Whether an event is a call of a level. -/
def isCallOf (level : String) (event : Event) : Bool := (event.callOf? level).isSome

theorem isAmong_of_isCallOf {level : String} {event : Event} (h : event.isCallOf level = true) :
    event.IsAmong [level] := by
  cases event with
  | call other asked =>
    by_cases heq : other = level
    · exact List.mem_singleton.mpr heq
    · rw [isCallOf, callOf?, if_neg heq] at h
      cases h
  | keep => cases h
  | setGap => cases h

end Event

namespace Store

/-- The answer to an event, and the store after it. -/
def happen (s : Store) : Event → Answer × Store
  | .call level call => step s { on := level, name := none, action := call.action }
  | .keep name segment source => ({ reply := .ok .done }, s.name name (.segment segment source))
  | .setGap name width => step s { on := name, name := none, action := .setGap width }

/-- The store after some events. -/
def after (s : Store) : List Event → Store
  | [] => s
  | event :: rest => (s.happen event).2.after rest

/-- The answers of a level to its own calls among some events. -/
def answersTo (level : String) (s : Store) : List Event → List Answer
  | [] => []
  | event :: rest =>
    let others := (s.happen event).2.answersTo level rest
    if event.isCallOf level then (s.happen event).1 :: others else others

end Store

/-- The answers of a play to some calls, and the play after them. -/
def respondAll (p : Play) : List LevelCall → List Answer × Play
  | [] => ([], p)
  | call :: rest =>
    let (answers, p') := respondAll (respond p call).2 rest
    ((respond p call).1 :: answers, p')

/-- What the plays of some levels become by an event: only a level that is called changes. -/
def Event.playsAfter (event : Event) (plays : String → Play) (level : String) : Play :=
  match event.callOf? level with
  | none => plays level
  | some asked => (respond (plays level) asked).2

/-! ## One event -/

section Steps

variable {s s' : Store} {levels : List String} {refs : String → Option SpawnerRef}
  {plays : String → Play}

/-- A level that moves leaves a level with another spawner as it is. -/
theorem Store.Moved.holds_other {level other : String} {ref ref' : Option SpawnerRef} {p' q : Play}
    (hmoved : s.Moved s' level ref p') (h : s.Holds other ref' q) (hne : other ≠ level)
    (hapart : ∀ r ∈ ref', r ∉ ref) : s'.Holds other ref' q := by
  obtain ⟨⟨plan, state, hobject, hplay⟩, hbounds⟩ := h
  refine ⟨⟨plan, state, (hmoved.objects other hne).trans hobject, ?_⟩, ?_⟩
  · rw [← hplay, Store.play, Store.play, Store.plan, Store.plan, Store.blueprint, Store.blueprint,
      hmoved.blueprints]
    cases ref' with
    | none => rfl
    | some r => simp only [Option.map_some, hmoved.spawners r (hapart r rfl)]
  · rw [hmoved.size]
    exact hbounds

/-- A call is answered as the play of its level alone answers it, and leaves all other levels as
they are. -/
theorem Store.Hosts.call (h : s.Hosts levels refs plays) {level : String} (hlevel : level ∈ levels)
    (call : LevelCall) :
    (s.happen (.call level call)).1 = (respond (plays level) call).1 ∧
      (s.happen (.call level call)).2.Hosts levels refs ((Event.call level call).playsAfter plays) ∧
      (s.happen (.call level call)).2.blueprints = s.blueprints := by
  obtain ⟨s', hstep, hmoved⟩ := step_eq_respond (h.holds level hlevel) call
  rw [Store.happen, hstep]
  refine ⟨rfl, ⟨fun other hother => ?_, h.own⟩, hmoved.blueprints⟩
  rw [Event.playsAfter, Event.callOf?]
  by_cases hne : level = other
  · subst hne
    rw [if_pos rfl]
    exact hmoved.holds
  · rw [if_neg hne]
    refine hmoved.holds_other (h.holds other hother) (Ne.symm hne) fun r hr hshared => ?_
    exact hne (h.own level hlevel other hother r hshared hr)

/-- A level that is started with a spawner of its own joins the others. -/
theorem Store.Hosts.newLevel (h : s.Hosts levels refs plays) {level planName spawnerName : String}
    {plan : SharedPlan} {ref : SpawnerRef} (hplan : s.objects.get? planName = some (.plan plan))
    (hspawner : s.objects.get? spawnerName = some (.spawner ref))
    (hbounds : ref.slot < s.spawners.size) (hnew : level ∉ levels)
    (hown : ∀ other ∈ levels, ref ∉ refs other) :
    (step s { on := none, name := level, action := .newLevel planName spawnerName }).2.Hosts
      (level :: levels) (Function.update refs level ref)
      (Function.update plays level (Play.start (s.plan plan) (s.spawner ref))) := by
  set started := Play.start (s.plan plan) (s.spawner ref)
  have hstep : (step s { on := none, name := level, action := .newLevel planName spawnerName }).2 =
      s.setPlay level ⟨plan, ref, started.level.state⟩ started := by
    have hnamed : ((none : Option String).toList ++
        (Action.newLevel planName spawnerName).mentions).all s.objects.contains = true := by
      simp [Action.mentions, Table.contains, hplan, hspawner]
    rw [step, if_pos hnamed]
    show ((performLevel none (some level) (.newLevel (some planName) (some spawnerName))).run
      { store := s }).2.store = _
    have hrun := run_object { store := s } hspawner
    rw [performLevel, run_bind, thePlan, run_bind, run_object _ hplan]
    · simp only [run_pure, run_bind, theSpawner, map_eq_pure_bind, hrun]
      rfl
    · exact Option.some_ne_none _
  have hmoved : s.Moved (s.setPlay level ⟨plan, ref, started.level.state⟩ started) level ref
      started := by
    refine Store.moved_setPlay rfl ?_ rfl rfl
    rintro r ⟨⟩
    exact hbounds
  rw [hstep]
  refine ⟨fun other hother => ?_, fun other hother other' hother' r hr hr' => ?_⟩
  · by_cases heq : other = level
    · subst heq
      rw [Function.update_self, Function.update_self]
      exact hmoved.holds
    · have hother := (List.mem_cons.mp hother).resolve_left heq
      rw [Function.update_of_ne heq, Function.update_of_ne heq]
      refine hmoved.holds_other (h.holds other hother) heq fun r hr hshared => ?_
      cases hshared
      exact hown other hother hr
  · -- the spawner of the new level is new to the others
    have hapart {other : String} (hother : other ∈ level :: levels) (hne : other ≠ level) :
        ref ∉ refs other := hown other ((List.mem_cons.mp hother).resolve_left hne)
    by_cases heq : other = level <;> by_cases heq' : other' = level
    · exact heq.trans heq'.symm
    · rw [heq, Function.update_self] at hr
      rw [Function.update_of_ne heq'] at hr'
      cases hr
      exact absurd hr' (hapart hother' heq')
    · rw [Function.update_of_ne heq] at hr
      rw [heq', Function.update_self] at hr'
      cases hr'
      exact absurd hr (hapart hother heq)
    · rw [Function.update_of_ne heq] at hr
      rw [Function.update_of_ne heq'] at hr'
      exact h.own other ((List.mem_cons.mp hother).resolve_left heq) other'
        ((List.mem_cons.mp hother').resolve_left heq') r hr hr'

/-- Giving something else than a level a name leaves the levels as they are. -/
theorem Store.Hosts.name (h : s.Hosts levels refs plays) {name : String} (hname : name ∉ levels)
    (object : Object) : (s.name name object).Hosts levels refs plays := by
  refine ⟨fun level hlevel => ?_, h.own⟩
  obtain ⟨⟨plan, state, hobject, hplay⟩, hbounds⟩ := h.holds level hlevel
  have hne : level ≠ name := by
    rintro rfl
    exact hname hlevel
  refine ⟨⟨plan, state, ?_, hplay⟩, hbounds⟩
  rw [Store.get?_name, if_neg hne]
  exact hobject

/-- Changing a gap gives at most one name another object. -/
theorem Store.happen_setGap (s : Store) (name : String) (width : Int) :
    (s.happen (.setGap name width)).2 = s ∨
      ∃ object, (s.happen (.setGap name width)).2 = s.name name object := by
  rw [Store.happen, step]
  split
  · next hnamed =>
    cases hobject : s.objects.get? name with
    | none => simp [Table.contains, hobject, Action.mentions] at hnamed
    | some object =>
      have hrun := run_object { store := s } hobject
      show ((performSpawning (some name) none (.setGap width)).run { store := s }).2.store = s ∨
        ∃ object, ((performSpawning (some name) none (.setGap width)).run { store := s }).2.store =
          s.name name object
      rw [performSpawning, run_bind, theSegment, run_bind, hrun]
      cases object with
      | segment segment source =>
        simp only [run_pure, run_bind, run_lift]
        cases segment.withGap width with
        | error fault => exact .inl rfl
        | ok segment' => exact .inr ⟨_, rfl⟩
      | _ => exact .inl rfl
  · exact .inl rfl

/-- Whatever happens, a level that is called answers as its play alone does, and nothing else
becomes of the levels and of the blueprints. -/
theorem Store.Hosts.happen (h : s.Hosts levels refs plays) {event : Event}
    (hevent : event.IsAmong levels) :
    (∀ level, ∀ call ∈ event.callOf? level,
        (s.happen event).1 = (respond (plays level) call).1) ∧
      (s.happen event).2.Hosts levels refs (event.playsAfter plays) ∧
      (s.happen event).2.blueprints = s.blueprints := by
  cases event with
  | call called call =>
    obtain ⟨hanswer, hafter⟩ := h.call hevent call
    refine ⟨fun level asked hasked => ?_, hafter⟩
    rw [Event.callOf?, Option.mem_def] at hasked
    split at hasked
    · next heq =>
      cases hasked
      exact heq ▸ hanswer
    · cases hasked
  | keep name segment source => exact ⟨nofun, h.name hevent _, rfl⟩
  | setGap name width =>
    refine ⟨nofun, ?_⟩
    obtain heq | ⟨object, heq⟩ := s.happen_setGap name width
    · rw [heq]
      exact ⟨h, rfl⟩
    · rw [heq]
      exact ⟨h.name hevent object, rfl⟩

end Steps

/-! ## All events -/

section Runs

variable {levels : List String} {refs : String → Option SpawnerRef}

/-- The calls of one level among some events. -/
def callsOf (level : String) (events : List Event) : List LevelCall :=
  events.filterMap (Event.callOf? level)

/-- In any interleaving every level answers its own calls as its play alone answers them, and is
afterwards what its play alone becomes; the blueprints stay as they are. -/
theorem Store.Hosts.run {s : Store} {plays : String → Play} (h : s.Hosts levels refs plays)
    {events : List Event} (hevents : ∀ event ∈ events, event.IsAmong levels) :
    (s.after events).blueprints = s.blueprints ∧ ∀ level ∈ levels,
      s.answersTo level events = (respondAll (plays level) (callsOf level events)).1 ∧
      (s.after events).Holds level (refs level)
        (respondAll (plays level) (callsOf level events)).2 := by
  induction events generalizing s plays with
  | nil => exact ⟨rfl, fun level hlevel => ⟨rfl, h.holds level hlevel⟩⟩
  | cons event rest ih =>
    obtain ⟨hanswer, hhosts, hblueprints⟩ := h.happen (hevents event List.mem_cons_self)
    obtain ⟨hrest, hlevels⟩ :=
      ih hhosts fun other hother => hevents other (List.mem_cons_of_mem _ hother)
    refine ⟨hrest.trans hblueprints, fun level hlevel => ?_⟩
    have hplay := hlevels level hlevel
    rw [Event.playsAfter] at hplay
    rw [Store.answersTo, Store.after, callsOf, List.filterMap_cons, Event.isCallOf]
    cases hcall : event.callOf? level with
    | none =>
      rw [hcall] at hplay
      exact hplay
    | some call =>
      rw [hcall] at hplay
      refine ⟨?_, hplay.2⟩
      rw [Option.isSome_some, if_pos rfl, hanswer level call hcall, hplay.1]
      rfl

theorem callsOf_filter (level : String) (events : List Event) :
    callsOf level (events.filter (Event.isCallOf level)) = callsOf level events := by
  rw [callsOf, callsOf, List.filterMap_filter]
  congr 1
  funext event
  rw [Event.isCallOf]
  cases event.callOf? level <;> rfl

/-- Levels do not interfere, whether they share a blueprint or not. Let any number of them have
spawners of their own, and let them be called in any order, while segments that they handed out are
kept elsewhere and get other gaps. Then every level answers its calls, with its segments and
elements, its warnings and its state, as it answers them alone, in this session or in any other that
holds the same play; it and its spawner become the same, and the blueprints stay as they are. -/
theorem Store.answersTo_eq_alone {s : Store} {plays : String → Play} (h : s.Hosts levels refs plays)
    {events : List Event} (hevents : ∀ event ∈ events, event.IsAmong levels) {level : String}
    (hlevel : level ∈ levels) {t : Store} {ref : Option SpawnerRef}
    (halone : t.Holds level ref (plays level)) :
    s.answersTo level events = t.answersTo level (events.filter (Event.isCallOf level)) ∧
    (∃ p, (s.after events).Holds level (refs level) p ∧
      (t.after (events.filter (Event.isCallOf level))).Holds level ref p) ∧
    (s.after events).blueprints = s.blueprints := by
  obtain ⟨hblueprints, hruns⟩ := h.run hevents
  obtain ⟨hanswers, hholds⟩ := hruns level hlevel
  -- alone the level is the only one, and all events are its calls
  have hhosts : t.Hosts [level] (fun _ => ref) (fun _ => plays level) := by
    refine ⟨fun other hother => ?_, fun other hother other' hother' _ _ _ => ?_⟩
    · rw [List.mem_singleton.mp hother]
      exact halone
    · rw [List.mem_singleton.mp hother, List.mem_singleton.mp hother']
  have hown : ∀ event ∈ events.filter (Event.isCallOf level), event.IsAmong [level] :=
    fun event hevent => Event.isAmong_of_isCallOf (List.mem_filter.mp hevent).2
  obtain ⟨hanswers', hholds'⟩ := (hhosts.run hown).2 level (List.mem_singleton_self level)
  rw [callsOf_filter] at hanswers' hholds'
  exact ⟨hanswers.trans hanswers'.symm, ⟨_, hholds, hholds'⟩, hblueprints⟩

end Runs

/-- A session with one frozen blueprint, two plans of it and two spawners. -/
def Store.meadows : Store where
  blueprints := #[LevelPlan.meadow.blueprint]
  spawners := #[.create, .create]
  objects := .ofList
    [("dawn", .plan ⟨"meadow", ⟨0⟩, 0, .arcade⟩), ("dusk", .plan ⟨"meadow", ⟨0⟩, 1, .arcade⟩),
      ("left", .spawner ⟨0⟩), ("right", .spawner ⟨1⟩)]

theorem Store.answersTo_eq_alone_meadows :
    ∃ s refs plays, Store.Hosts s ["west", "east"] refs plays ∧
      s.blueprints = #[LevelPlan.meadow.blueprint] ∧
      s.answersTo "east" [.call "east" (.next 1), .keep "floor" (.spawnFloor .empty) (some ⟨0⟩),
          .setGap "floor" 7, .call "west" (.generate 30), .call "west" .rewind,
          .call "east" (.generate 20)] =
        s.answersTo "east" [.call "east" (.next 1), .call "east" (.generate 20)] := by
  have hnone : Store.meadows.Hosts [] (fun _ => none) (fun _ => .start .meadow none) :=
    ⟨nofun, nofun⟩
  let east : Store :=
    (step .meadows { on := none, name := "east", action := .newLevel "dawn" "left" }).2
  have heast : east.Hosts ["east"] _ _ := hnone.newLevel rfl rfl (by decide) nofun nofun
  let both : Store :=
    (step east { on := none, name := "west", action := .newLevel "dusk" "right" }).2
  have hboth : both.Hosts ["west", "east"] _ _ :=
    heast.newLevel rfl rfl (by decide) (by decide) (by decide)
  refine ⟨both, _, _, hboth, rfl, ?_⟩
  refine (Store.answersTo_eq_alone hboth ?_ ?_ (hboth.holds "east" (by decide))).1
  · simp [Event.IsAmong]
  · decide

end LevelForge.Session
