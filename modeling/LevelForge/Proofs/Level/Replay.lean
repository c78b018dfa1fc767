import LevelForge.Proofs.Filled
import LevelForge.Proofs.Level.Lockstep
import LevelForge.Proofs.Spawner.SetUp

/-!
# Replaying a level

Whatever was done with a play and, apart from it, with its spawner: started over, it plays like a
new one. Starting over restores all that later answers depend on, the state of the level and the key
of the spawner, and the set-up of the spawner was never changed.

* `Play.Use`: what can be done with a play and its spawner.
* `Play.rewind_replays`: a play that starts over answers like a new one.
-/

namespace LevelForge

namespace Level

/-- One level twice, with spawners that were `s` and `t` and have made the same since. -/
def Twice (plan : LevelPlan) (s t : Spawner) :
    List Empty → Level → Spawner → Level → Spawner → Prop :=
  fun _ l s' m t' => l = m ∧ m.plan = plan ∧
    ∃ key made, s' = s.having key made ∧ t' = t.having key made

/-- A play and the same play of another spawner go in lockstep. -/
theorem lockstep_twice {plan : LevelPlan} (hadmissible : plan.blueprint.bosses.Admissible)
    {s t : Spawner} (hsetup : s.SameSetUp t) :
    Lockstep Eq (fun _ _ => []) (Twice plan s t) where
  levelId := by rintro _ _ _ _ _ ⟨rfl, -⟩; rfl
  count := by rintro _ _ _ _ _ ⟨rfl, -⟩; rfl
  hasNext := by rintro _ _ _ _ _ ⟨rfl, -⟩; rfl
  frontier := by rintro _ _ _ _ _ ⟨rfl, -⟩; rfl
  next := by
    rintro _ l _ _ _ ⟨rfl, rfl, hspawners⟩
    obtain ⟨answer, l', hnext, hhands⟩ := exists_handsOut hadmissible
    have hanswer : Option.Rel Eq answer answer := by cases answer <;> constructor; rfl
    exact ⟨answer, l', answer, l', hnext, hnext, hanswer, rfl, hhands.plan_eq, hspawners⟩
  build := by
    rintro _ l _ _ _ segment l' ⟨rfl, rfl, key, made, rfl, rfl⟩ hnext
    obtain ⟨key', made', hs, ht, hwarnings⟩ := (hsetup.having key key made made).build_eq rfl
      segment (l.state.frontier + 1) (l.has .autoCoinSpawn)
      (if l.has .autoCoinSpawn then some (l'.state.draw .coins).2 else none)
    refine ⟨_, _, buildNext_of_next hnext _, buildNext_of_next hnext _, rfl, rfl, hwarnings, rfl,
      ?_, key', made ++ made', ?_, ?_⟩
    · exact (handsOut_of_next hadmissible hnext).plan_eq
    · rw [hs, Spawner.having_having]
    · rw [ht, Spawner.having_having]
  nextGap := by
    rintro _ l _ _ _ ⟨rfl, rfl, hspawners⟩
    obtain ⟨width, key, hgap, -⟩ := nextGap_spec l
    exact ⟨rfl, rfl, by rw [hgap], hspawners⟩
  rewind := by
    rintro _ l _ _ _ ⟨rfl, rfl, key, made, rfl, rfl⟩
    exact ⟨rfl, rfl, _, made, rfl, rfl⟩

end Level

namespace Play

/-- Replies that are alike up to equal segments are equal. -/
theorem Reply.Alike.eq {reply reply' : Reply} (h : reply.Alike Eq reply') : reply = reply' := by
  cases h with
  | handedOut hanswer => cases hanswer with
    | none => rfl
    | some hsegment => rw [hsegment]
  | built warnings hsegments =>
    rw [List.forall₂_eq_eq_eq] at hsegments
    rw [hsegments]
  | gap => rfl
  | done => rfl

/-- Where one of two plays is answered the other is not refused. -/
theorem Reply.Alike.not_refused {alike : Segment → Segment → Prop} {reply reply' : Reply}
    (h : reply.Alike alike reply') (fault : Level.Fault) : reply' ≠ .refused fault := by
  cases h <;> nofun

/-- What can be done with a play and, apart from it, with its spawner. -/
inductive Use where
  | call (call : Call)
  | place (placement : Placement)
  | resolve (symbol : String)
  | reseed (key : Random.Key)
  | clear

/-- A use that leaves the play its spawner. -/
def Use.IsOwn : Use → Prop
  | .call own => own.IsOwn
  | _ => True

/-- The play after a use. -/
def use (p : Play) : Use → Play
  | .call call => (p.perform call).2
  | .place placement => { p with spawner := p.spawner.map (·.place placement |>.spawner) }
  | .resolve symbol => { p with spawner := p.spawner.map (·.resolve symbol |>.spawner) }
  | .reseed key => { p with spawner := p.spawner.map (·.reseed key) }
  | .clear => { p with spawner := p.spawner.map Spawner.clear }

/-- The play after uses in order. -/
def useAll (p : Play) (history : List Use) : Play := history.foldl use p

/-- A use changes neither the plan nor the set-up of the spawner. -/
theorem use_spec {l : Level} (hadmissible : l.plan.blueprint.bosses.Admissible) (s : Spawner)
    {use : Use} (huse : use.IsOwn) :
    ∃ l' s', (⟨l, some s⟩ : Play).use use = ⟨l', some s'⟩ ∧ l'.plan = l.plan ∧ s.SameSetUp s' := by
  cases use with
  | call call =>
    have htwice : Level.Twice l.plan s s [] l s l s :=
      ⟨rfl, rfl, s.key, [], by simp [Spawner.reseed]⟩
    obtain ⟨reply, l', _, _, _, _, hp, -, -, rfl, hplan, key, made, rfl, -⟩ :=
      (Level.lockstep_twice hadmissible (.refl s)).perform htwice huse
    exact ⟨l', _, congrArg Prod.snd hp, hplan, s.sameSetUp_having key made⟩
  | place placement =>
    obtain ⟨value, key, warnings, hplace, -⟩ :=
      (Spawner.SameSetUp.refl s).place_eq rfl placement
    refine ⟨l, s.having key value.toList, ?_, rfl, s.sameSetUp_having _ _⟩
    rw [Play.use, Option.map_some, hplace]
  | resolve symbol =>
    obtain ⟨key, hresolve⟩ := s.exists_resolve_eq symbol
    refine ⟨l, { s with key }, ?_, rfl, ⟨fun _ => rfl, fun _ => rfl, rfl, rfl⟩⟩
    rw [Play.use, Option.map_some, hresolve]
  | reseed key => exact ⟨l, _, rfl, rfl, s.sameSetUp_reseed key⟩
  | clear => exact ⟨l, _, rfl, rfl, ⟨fun _ => rfl, fun _ => rfl, rfl, rfl⟩⟩

/-- Whatever a play with a spawner is used for, it keeps its plan, and its spawner is set up as
before. -/
theorem useAll_spec {l : Level} (hadmissible : l.plan.blueprint.bosses.Admissible) (s : Spawner)
    {history : List Use} (hhistory : ∀ use ∈ history, use.IsOwn) :
    ∃ l' s', (⟨l, some s⟩ : Play).useAll history = ⟨l', some s'⟩ ∧ l'.plan = l.plan ∧
      s.SameSetUp s' := by
  induction history generalizing l s with
  | nil => exact ⟨l, s, rfl, rfl, .refl s⟩
  | cons use rest ih =>
    obtain ⟨l₁, s₁, huse, hplan₁, hsetup₁⟩ :=
      use_spec hadmissible s (hhistory use List.mem_cons_self)
    obtain ⟨l', s', hrest, hplan, hsetup⟩ := ih (hplan₁ ▸ hadmissible) s₁
      fun other hother => hhistory other (List.mem_cons_of_mem _ hother)
    refine ⟨l', s', ?_, hplan.trans hplan₁, hsetup₁.trans hsetup⟩
    rw [useAll, List.foldl_cons, huse]
    exact hrest

/-- A play that has been used in any way, its spawner apart from it too, and that starts over
answers every further sequence of calls like a new play of its plan whose spawner has the same
set-up: with the same replies, none of them a refusal, and the same level afterwards, and the
spawners make the same and come to the same key. -/
theorem rewind_replays {plan : LevelPlan} (hfilled : plan.blueprint.Filled) {s t : Spawner}
    (hsetup : s.SameSetUp t) {history : List Use} (hhistory : ∀ use ∈ history, use.IsOwn)
    {calls : List Call} (hcalls : ∀ call ∈ calls, call.IsOwn) :
    ∃ s₁ replies l key made,
      ((start plan (some s)).useAll history).spawner = some s₁ ∧
      ((start plan (some s)).useAll history).rewind.performAll calls =
        (replies, ⟨l, some (s₁.having key made)⟩) ∧
      (start plan (some t)).performAll calls = (replies, ⟨l, some (t.having key made)⟩) ∧
      ∀ fault, .refused fault ∉ replies := by
  have hadmissible := hfilled.admissible
  obtain ⟨l₁, s₁, hused, rfl, hkept⟩ := useAll_spec (l := .start plan) hadmissible
    (s.reseed (Level.start plan).state.elements) hhistory
  have hsetup₁ : s₁.SameSetUp t := hkept.symm.trans ((s.sameSetUp_reseed _).symm.trans hsetup)
  -- both plays are at the start of the plan, their spawners with its key
  have htwice : Level.Twice l₁.plan s₁ t [] (.start l₁.plan)
      (s₁.reseed (Level.start l₁.plan).state.elements) (.start l₁.plan)
      (t.reseed (Level.start l₁.plan).state.elements) :=
    ⟨rfl, rfl, _, [], (Spawner.having_nil _ _).symm, (Spawner.having_nil _ _).symm⟩
  obtain ⟨replies, l, _, replies', _, _, hp, hq, hreplies, rfl, -, key, made, rfl, rfl⟩ :=
    (Level.lockstep_twice hadmissible hsetup₁).performAll htwice hcalls
  obtain rfl : replies = replies' :=
    List.forall₂_eq_eq_eq ▸ hreplies.imp fun _ _ halike => halike.eq
  refine ⟨s₁, replies, l, key, made, congrArg spawner hused, ?_, hq, fun fault hrefused => ?_⟩
  · rw [← hp]
    exact congrArg (fun p : Play => p.rewind.performAll calls) hused
  · exact (List.forall₂_same.mp hreplies _ hrefused).not_refused fault rfl

theorem rewind_replays_meadow :
    LevelPlan.meadow.blueprint.Filled ∧
      Spawner.create.SameSetUp (Spawner.create.reseed (.ofSeed 7)) ∧
      ∃ s₁ replies l key made,
        ((start .meadow (some .create)).useAll
          [.call .next, .call (.generate 40), .resolve "Enemy", .clear]).spawner = some s₁ ∧
        ((start .meadow (some .create)).useAll
          [.call .next, .call (.generate 40), .resolve "Enemy", .clear]).rewind.performAll
            [.generate 60, .next] = (replies, ⟨l, some (s₁.having key made)⟩) ∧
        (start .meadow (some (Spawner.create.reseed (.ofSeed 7)))).performAll
            [.generate 60, .next] =
          (replies, ⟨l, some ((Spawner.create.reseed (.ofSeed 7)).having key made)⟩) ∧
        ∀ fault, .refused fault ∉ replies := by
  have hsetup := Spawner.create.sameSetUp_reseed (.ofSeed 7)
  have hhistory : ∀ use ∈ [Use.call .next, .call (.generate 40), .resolve "Enemy", .clear],
      use.IsOwn := by simp [Use.IsOwn, Call.IsOwn]
  have hcalls : ∀ call ∈ [Call.generate 60, .next], call.IsOwn := by simp [Call.IsOwn]
  exact ⟨LevelPlan.filled_meadow, hsetup,
    rewind_replays LevelPlan.filled_meadow hsetup hhistory hcalls⟩

end Play

end LevelForge
