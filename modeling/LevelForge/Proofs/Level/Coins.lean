import LevelForge.Proofs.Level.Recast
import LevelForge.Proofs.Level.Replay

/-!
# Coins

Switching coins on disturbs nothing else. Coins have a random stream of their own, no registered
symbol draws from the key of a spawner, and the sequence of a level does not depend on the setting.
So two plays that differ in nothing but coins hand out the same, report the same and come to the
same state and keys; and what one of them makes is what the other one makes without the coins
strewn.

* `LevelPlan.SameButCoins`: two plans, one of them with coins.
* `Level.strewing`: what building a segment with coins makes, the strewn ones marked.
* `Play.performAll_coins`: the two plays side by side.
-/

namespace LevelForge

/-- Two segments that are the same, except for the order of their tables of aliases. -/
structure Segment.Same (a b : Segment) : Prop where
  template : a.template = b.template
  kind : a.kind = b.kind
  index : a.index = b.index
  gap : a.gap = b.gap
  aliases : ∀ symbol, a.aliases.get? symbol = b.aliases.get? symbol

/-- Two plans that agree on everything a level is played from, except that one of them has coins
switched off and the other one on. -/
structure LevelPlan.SameButCoins (plain coined : LevelPlan) : Prop where
  levelId : plain.levelId = coined.levelId
  seed : plain.seed = coined.seed
  templates : plain.blueprint.templates = coined.blueprint.templates
  rules : plain.blueprint.bosses.rules = coined.blueprint.bosses.rules
  aliases : ∀ symbol,
    plain.blueprint.aliases.get? symbol = coined.blueprint.aliases.get? symbol
  settings : ∀ key, key ≠ Setting.autoCoinSpawn.key →
    plain.blueprint.setting? key = coined.blueprint.setting? key
  off : plain.blueprint.has .autoCoinSpawn = false
  on : coined.blueprint.has .autoCoinSpawn = true

/-- Coins play no part in the sequence of a level. -/
theorem LevelPlan.SameButCoins.sameSequence {plain coined : LevelPlan}
    (h : plain.SameButCoins coined) : plain.blueprint.SameSequence coined.blueprint := by
  have hhas {setting : Setting} (hne : setting.key ≠ Setting.autoCoinSpawn.key) :
      plain.blueprint.has setting = coined.blueprint.has setting := by
    rw [Blueprint.has, Blueprint.has, Blueprint.isSet, Blueprint.isSet, h.settings _ hne]
  exact ⟨h.templates, h.rules, hhas (by decide), hhas (by decide), hhas (by decide)⟩

namespace Level

/-- What building the next segment with coins makes, each element with the word whether it is a
coin strewn into an empty cell. -/
def strewing (l : Level) (s : Spawner) : List (Element × Bool) :=
  match l.next with
  | .ok (some segment, l') =>
    s.makes (segment.strewing (l.state.frontier + 1) s.worldHeight (l'.state.draw .coins).2)
  | _ => []

/-- A level without coins beside one with coins, at the same point and built equally far. The
spawners were `s` and `t`. What was made since is one list, without what was strewn and with it. -/
structure Beside (plain coined : LevelPlan) (s t : Spawner) (made : List (Element × Bool))
    (l : Level) (s' : Spawner) (m : Level) (t' : Spawner) : Prop where
  plan : m.plan = coined
  recast : l = m.recast plain m.state.frontier l.state.coins m.state.elements
  spawners : ∃ key, s' = s.having key (unstrewn made) ∧ t' = t.having key (made.map Prod.fst)

section Beside

variable {plain coined : LevelPlan} {s t : Spawner}

/-- Handing out keeps levels beside each other. -/
theorem Beside.next (hsame : plain.SameButCoins coined) {made : List (Element × Bool)}
    {l m m' : Level} {s' t' : Spawner} {answer : Option Segment}
    (h : Beside plain coined s t made l s' m t') (hnext : m.next = .ok (answer, m')) :
    ∃ l', l.next = .ok (answer.map (·.withAliases plain.blueprint.aliases), l') ∧
      Option.Rel Segment.Same (answer.map (·.withAliases plain.blueprint.aliases)) answer ∧
      Beside plain coined s t made l' s' m' t' := by
  obtain ⟨rfl, hrecast, hspawners⟩ := h
  obtain ⟨haliases, hkept⟩ := next_frame hnext
  rw [hrecast, next_recast hsame.sameSequence, hnext]
  refine ⟨_, rfl, ?_, by rw [← hkept]; rfl, by rw [← hkept]; rfl, hspawners⟩
  cases answer with
  | none => exact .none
  | some segment =>
    refine .some ⟨rfl, rfl, rfl, rfl, fun symbol => ?_⟩
    -- the segment bears the aliases of its level
    rw [← Option.some.inj haliases]
    exact hsame.aliases symbol

/-- Building keeps levels beside each other. -/
theorem Beside.build (hsame : plain.SameButCoins coined) (hsetup : s.SameSetUp t)
    (hcoin : t.registry.contains World.coinSymbol = true) {made : List (Element × Bool)}
    {l m m' : Level} {s' t' : Spawner} {segment : Segment}
    (h : Beside plain coined s t made l s' m t') (hm : m.next = .ok (some segment, m')) :
    ∃ built built', l.buildNext s' = .ok (some built) ∧ m.buildNext t' = .ok (some built') ∧
      built.segment.Same built'.segment ∧ built.width = built'.width ∧
      built.warnings = built'.warnings ∧
      Beside plain coined s t (made ++ m.strewing t') built.level built.spawner built'.level
        built'.spawner := by
  obtain ⟨l', hl, hrel, h'⟩ := h.next hsame hm
  obtain ⟨rfl, hrecast, key, rfl, rfl⟩ := h
  have hoff : l.has .autoCoinSpawn = false := by rw [hrecast]; exact hsame.off
  have hon : m.has .autoCoinSpawn = true := hsame.on
  have hfrontier : l.state.frontier = m.state.frontier := by rw [hrecast]; rfl
  have hstrewing : m.strewing (t.having key (made.map Prod.fst)) =
      (t.having key (made.map Prod.fst)).makes (segment.strewing (m.state.frontier + 1)
        (t.having key (made.map Prod.fst)).worldHeight (m'.state.draw .coins).2) := by
    rw [strewing, hm]
  -- the segments are placed alike, and with them the coins of one level
  obtain ⟨key', hs, ht, hwarnings⟩ := Spawner.build_unstrewn
    (hsetup.having key key (unstrewn made) (made.map Prod.fst)) rfl hcoin segment
    (m.state.frontier + 1) (m'.state.draw .coins).2
  rw [← hstrewing, Spawner.having_having] at hs ht
  have hbuild := buildNext_of_next hl (s.having key (unstrewn made))
  have hbuild' := buildNext_of_next hm (t.having key (made.map Prod.fst))
  simp only [hoff, hfrontier, Bool.false_eq_true, if_false] at hbuild
  simp only [hon, if_true] at hbuild'
  cases hrel with
  | some hsegment =>
    have haliases : ∀ symbol,
        plain.blueprint.aliases.get? symbol = segment.aliases.get? symbol := hsegment.aliases
    rw [Spawner.build_withAliases haliases] at hbuild
    refine ⟨_, _, hbuild, hbuild', hsegment, rfl, hwarnings, h'.plan, ?_, key', ?_, ?_⟩
    · rw [h'.recast]
      rfl
    · rw [unstrewn_append]
      exact hs
    · rw [List.map_append]
      exact ht

/-- Levels that start are beside each other, whatever their spawners have made. -/
theorem beside_start (hsame : plain.SameButCoins coined) (made : List (Element × Bool)) :
    Beside plain coined s t made (.start plain)
      (s.having (Level.start plain).state.elements (unstrewn made)) (.start coined)
      (t.having (Level.start coined).state.elements (made.map Prod.fst)) := by
  have hstate : (Level.start plain).state = (Level.start coined).state :=
    congrArg (LevelState.start ∘ Random.Key.ofSeed) hsame.seed
  refine ⟨rfl, ?_, (Level.start coined).state.elements, by rw [hstate], rfl⟩
  rw [hstate]
  exact congrArg (Level.mk plain) hstate

/-- Plays beside each other are beside each other when both start over. -/
theorem Beside.rewind (hsame : plain.SameButCoins coined) {made : List (Element × Bool)}
    {l m : Level} {s' t' : Spawner} (h : Beside plain coined s t made l s' m t') :
    Beside plain coined s t made l.rewind (s'.reseed l.rewind.state.elements) m.rewind
      (t'.reseed m.rewind.state.elements) := by
  obtain ⟨rfl, hrecast, key, rfl, rfl⟩ := h
  obtain rfl : l.plan = plain := by rw [hrecast]; rfl
  exact beside_start hsame made

/-- A play without coins and one with coins go in lockstep. -/
theorem lockstep_beside (hsame : plain.SameButCoins coined)
    (hadmissible : coined.blueprint.bosses.Admissible) (hsetup : s.SameSetUp t)
    (hcoin : t.registry.contains World.coinSymbol = true) :
    Lockstep Segment.Same strewing (Beside plain coined s t) where
  levelId := by
    rintro _ l _ m _ ⟨rfl, hrecast, -⟩
    rw [hrecast]
    exact hsame.levelId
  count := by
    rintro _ l _ m _ ⟨rfl, hrecast, -⟩
    rw [hrecast, count_recast hsame.sameSequence]
  hasNext := by
    rintro _ l _ m _ ⟨rfl, hrecast, -⟩
    rw [hrecast, hasNext_recast hsame.sameSequence]
  frontier := by
    rintro _ l _ m _ ⟨rfl, hrecast, -⟩
    rw [hrecast]
    rfl
  next := by
    rintro _ l _ m _ h
    obtain ⟨answer, m', hnext, -⟩ := exists_handsOut (l := m) (h.plan ▸ hadmissible)
    obtain ⟨l', hl, hrel, h'⟩ := h.next hsame hnext
    exact ⟨_, l', answer, m', hl, hnext, hrel, h'⟩
  build := Beside.build hsame hsetup hcoin
  nextGap := by
    rintro _ l _ m _ ⟨rfl, hrecast, hspawners⟩
    rw [hrecast, nextGap_recast hsame.sameSequence]
    obtain ⟨width, key, hgap, -⟩ := nextGap_spec m
    refine ⟨rfl, by rw [hgap], by rw [hgap]; rfl, hspawners⟩
  rewind := Beside.rewind hsame

end Beside

end Level

namespace LevelPlan

/-- The small finite level with coins switched on. -/
def meadowWithCoins : LevelPlan :=
  { meadow with blueprint :=
    { meadow.blueprint with settings := Table.empty.insert Setting.autoCoinSpawn.key "1" } }

/-- The meadow with coins is filled from an empty blueprint. -/
theorem filled_meadowWithCoins : meadowWithCoins.blueprint.Filled := by
  have hempty : Blueprint.Filled { name := some "meadow" } := .empty _
  have hcoins := hempty.setSetting Setting.autoCoinSpawn.key "1" rfl
  have hsmasher := hcoins.addBoss "AT10" "RektSmasher" rfl
  have hslurp := hsmasher.addBoss "EVERY4" "Slurp" rfl
  have hfloors := (hslurp.addTemplate (.floor 5) rfl).addTemplate (.floor 7) rfl
  exact hfloors.freeze

/-- The two meadows differ in the coins alone. -/
theorem sameButCoins_meadow : meadow.SameButCoins meadowWithCoins where
  levelId := rfl
  seed := rfl
  templates := rfl
  rules := rfl
  aliases := fun _ => rfl
  settings := fun key hne => by
    change none = (Table.empty.insert Setting.autoCoinSpawn.key "1").get? key
    rw [Table.get?_insert, if_neg hne, Table.get?_empty]
  off := rfl
  on := by decide +kernel

end LevelPlan

namespace Play

/-- What calls make on a play with coins, each element with the word whether it is a coin strewn
into an empty cell. -/
def strewing (p : Play) (calls : List Call) : List (Element × Bool) := p.notes Level.strewing calls

/-- Two plays of plans that differ in nothing but coins, with spawners of one set-up that know
coins, answer the same calls with the same segments, warnings and gaps, and refuse none of them.
Their levels agree on everything but the key for coins, and so do the keys of their spawners; and
the play without coins has made what the other one has made, except for the coins strewn. -/
theorem performAll_coins {plain coined : LevelPlan} (hsame : plain.SameButCoins coined)
    (hfilled : coined.blueprint.Filled) {s t : Spawner} (hsetup : s.SameSetUp t)
    (hcoin : t.registry.contains World.coinSymbol = true) {calls : List Call}
    (hcalls : ∀ call ∈ calls, call.IsOwn) :
    ∃ replies replies' l m key,
      (start plain (some s)).performAll calls = (replies,
        ⟨l, some (s.having key (unstrewn ((start coined (some t)).strewing calls)))⟩) ∧
      (start coined (some t)).performAll calls = (replies',
        ⟨m, some (t.having key (((start coined (some t)).strewing calls).map Prod.fst))⟩) ∧
      List.Forall₂ (Reply.Alike Segment.Same) replies replies' ∧
      l.state = { m.state with coins := l.state.coins } := by
  have hbeside := Level.beside_start (s := s) (t := t) hsame []
  rw [unstrewn_nil, List.map_nil, Spawner.having_nil, Spawner.having_nil] at hbeside
  have hlockstep := Level.lockstep_beside hsame hfilled.admissible hsetup hcoin
  obtain ⟨replies, l, _, replies', m, _, hp, hq, hreplies, -, hrecast, key, rfl, rfl⟩ :=
    hlockstep.performAll hbeside hcalls
  exact ⟨replies, replies', l, m, key, hp, hq, hreplies, congrArg Level.state hrecast⟩

theorem performAll_coins_meadow :
    LevelPlan.meadow.SameButCoins .meadowWithCoins ∧
      LevelPlan.meadowWithCoins.blueprint.Filled ∧
      Spawner.create.SameSetUp (Spawner.create.reseed (.ofSeed 7)) ∧
      ∃ replies replies' l m key,
        (start .meadow (some .create)).performAll [.generate 30, .rewind, .next, .generate 50] =
          (replies, ⟨l, some (Spawner.create.having key (unstrewn
            ((start .meadowWithCoins (some (Spawner.create.reseed (.ofSeed 7)))).strewing
              [.generate 30, .rewind, .next, .generate 50])))⟩) ∧
        (start .meadowWithCoins (some (Spawner.create.reseed (.ofSeed 7)))).performAll
            [.generate 30, .rewind, .next, .generate 50] =
          (replies', ⟨m, some ((Spawner.create.reseed (.ofSeed 7)).having key
            (((start .meadowWithCoins (some (Spawner.create.reseed (.ofSeed 7)))).strewing
              [.generate 30, .rewind, .next, .generate 50]).map Prod.fst))⟩) ∧
        List.Forall₂ (Reply.Alike Segment.Same) replies replies' ∧
        l.state = { m.state with coins := l.state.coins } := by
  have hsetup := Spawner.create.sameSetUp_reseed (.ofSeed 7)
  have hcalls : ∀ call ∈ [Call.generate 30, .rewind, .next, .generate 50], call.IsOwn := by
    simp [Call.IsOwn]
  exact ⟨LevelPlan.sameButCoins_meadow, LevelPlan.filled_meadowWithCoins, hsetup,
    performAll_coins LevelPlan.sameButCoins_meadow LevelPlan.filled_meadowWithCoins hsetup
      (by decide +kernel) hcalls⟩

end Play

end LevelForge
