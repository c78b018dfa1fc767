import LevelForge.Proofs.Spawner.Calls

/-!
# Groups of spawners

A group is what it was last defined as. Its name stands for one of its members as long as it has no
maker; but the members of groups get makers, and so a group that is a member of another one stands
for itself from then on.

* `get?_groups_eq_lookup`: a group has the members that it was last given.
* `contains_iff_isMember`: a name that no maker was given to has one exactly as a member of a group.
* `resolve_mem_members_iff`: the groups whose names stand for members.
-/

namespace LevelForge.Spawner

/-- The groups that a spawner was told about: those that it was created with, and those that calls
defined, in order. -/
def definedGroups (groups : Table (List String)) (calls : List Call) :
    List (String × List String) :=
  groups.entries ++ calls.filterMap Call.group?

/-- A name is a member of some group that a spawner was told about. -/
def IsMember (groups : Table (List String)) (calls : List Call) (name : String) : Prop :=
  ∃ group ∈ definedGroups groups calls, name ∈ group.2

section Groups

variable (registry : Table Maker) (groups : Table (List String)) (worldHeight : Int)
  (key : Random.Key) (record listen : Bool) (calls : List Call)

/-- A group has the members that it was last given. -/
theorem get?_groups_eq_lookup (name : String) :
    ((create registry groups worldHeight key record listen).performAll calls).spawner.groups.get?
        name = (definedGroups groups calls).reverse.lookup name := by
  have hdefinitions : (definitions groups.entries).filterMap Call.group? = groups.entries := by
    simp [definitions, Function.comp_def, Call.group?]
  rw [get?_groups_performAll, create_eq_performAll, get?_groups_performAll, hdefinitions,
    definedGroups, List.reverse_append, List.lookup_append]
  exact congrArg _ (Option.or_none ..)

/-- A name other than the placeholder that no maker was given to has one exactly if it is a member
of a group. -/
theorem contains_iff_isMember {name : String} (hregistry : registry.contains name = false)
    (hplaceholder : name ≠ World.placeholderSymbol)
    (hregister : ∀ maker, .register name maker ∉ calls) :
    ((create registry groups worldHeight key record listen).performAll
      calls).spawner.registry.contains name = true ↔ IsMember groups calls name := by
  have hcall : (∃ call ∈ calls, call.Registers name) ↔
      ∃ group ∈ calls.filterMap Call.group?, name ∈ group.2 := by
    constructor
    · rintro ⟨call, hcall, hregisters⟩
      cases hregisters with
      | register maker => exact absurd hcall (hregister maker)
      | member group hmember =>
        exact ⟨_, List.mem_filterMap.mpr ⟨_, hcall, rfl⟩, hmember⟩
    · rintro ⟨group, hgroup, hmember⟩
      obtain ⟨call, hcall, hdefines⟩ := List.mem_filterMap.mp hgroup
      cases call with
      | registerGroup other members =>
        cases hdefines
        exact ⟨_, hcall, .member other hmember⟩
      | _ => cases hdefines
  rw [contains_performAll_iff, contains_create_iff, hcall, IsMember, definedGroups, hregistry]
  simp [hplaceholder, or_and_right, exists_or]

end Groups

/-- A group with members, whose name was given no maker and is not the placeholder, has the members
that it was last given. Its name stands for one of them exactly if it is one of them itself or in no
group at all; and if it is in a group it stands for itself, without a choice or a warning. -/
theorem resolve_mem_members_iff (registry : Table Maker) (groups : Table (List String))
    (worldHeight : Int) (key : Random.Key) (record listen : Bool) (calls : List Call) :
    let s := ((create registry groups worldHeight key record listen).performAll calls).spawner
    ∀ name members, s.groups.get? name = some members → members ≠ [] →
      registry.contains name = false → name ≠ World.placeholderSymbol →
      (∀ maker, .register name maker ∉ calls) →
      (definedGroups groups calls).reverse.lookup name = some members ∧
      ((s.resolve name).value ∈ members ↔ name ∈ members ∨ ¬ IsMember groups calls name) ∧
      (IsMember groups calls name → s.resolve name = ⟨name, s, []⟩) ∧
      (s.resolve name).warnings = [] := by
  intro s name members hmembers hne hregistry hplaceholder hregister
  have hlookup : (definedGroups groups calls).reverse.lookup name = some members := by
    rw [← hmembers]
    exact (get?_groups_eq_lookup registry groups worldHeight key record listen calls name).symm
  have hcontains : s.registry.contains name = true ↔ IsMember groups calls name :=
    contains_iff_isMember registry groups worldHeight key record listen calls hregistry
      hplaceholder hregister
  refine ⟨hlookup, ?_⟩
  by_cases hmember : IsMember groups calls name
  · have hresolve := resolve_of_registered (hcontains.mpr hmember)
    refine ⟨?_, fun _ => hresolve, by rw [hresolve]⟩
    rw [hresolve]
    exact (or_iff_left (not_not_intro hmember)).symm
  · -- the name has no maker, so one of its members is chosen
    have hunregistered : ¬ s.registry.contains name = true := hcontains.not.mpr hmember
    have hchosen : (s.resolve name).value ∈ members ∧ (s.resolve name).warnings = [] := by
      generalize hvalue : (s.resolve name).value = value
      generalize hwarnings : (s.resolve name).warnings = warnings
      have hstands := s.standsFor_resolve name
      rw [hvalue, hwarnings] at hstands
      cases hstands with
      | registered hregistered => exact absurd hregistered hunregistered
      | member _ hgroup hmember =>
        rw [hmembers] at hgroup
        cases hgroup
        exact ⟨hmember, rfl⟩
      | placeholder _ hempty => exact absurd (hempty members hmembers) hne
    exact ⟨iff_of_true hchosen.1 (.inr hmember), fun h => absurd h hmember, hchosen.2⟩

/-- Two groups, one of which is defined anew and one of which is a member of the other. -/
def packCalls : List Call :=
  [.registerGroup "Pack" ["Rocket"], .registerGroup "Horde" ["Slurp"],
    .ask (.resolve "Horde"), .registerGroup "Horde" ["Pack", "Cannon"]]

theorem resolve_mem_members_pack :
    let s := (create.performAll packCalls).spawner
    (s.resolve "Horde").value ∈ ["Pack", "Cannon"] ∧ s.resolve "Pack" = ⟨"Pack", s, []⟩ := by
  have hregister (name : String) : ∀ maker, .register name maker ∉ packCalls := by
    simp [packCalls]
  have hspec := resolve_mem_members_iff standardRegistry standardGroups World.standardHeight
    (.ofSeed 0) true false packCalls
  constructor
  · have hmember : ¬ IsMember standardGroups packCalls "Horde" := by
      unfold IsMember
      decide +kernel
    obtain ⟨-, hiff, -⟩ := hspec "Horde" ["Pack", "Cannon"] (by decide +kernel) (by decide)
      (by decide +kernel) (by decide) (hregister "Horde")
    exact hiff.mpr (.inr hmember)
  · have hmember : IsMember standardGroups packCalls "Pack" := by
      unfold IsMember
      decide +kernel
    obtain ⟨-, -, hitself, -⟩ := hspec "Pack" ["Rocket"] (by decide +kernel) (by decide)
      (by decide +kernel) (by decide) (hregister "Pack")
    exact hitself hmember

/-- A group that becomes a member of another one no longer stands for its own member. -/
theorem resolve_notMem_pack :
    let calls : List Call := [.registerGroup "Pack" ["Rocket"], .registerGroup "Horde" ["Pack"]]
    let s := (create.performAll calls).spawner
    s.groups.get? "Pack" = some ["Rocket"] ∧ standardRegistry.contains "Pack" = false ∧
      "Pack" ≠ World.placeholderSymbol ∧ (∀ maker, .register "Pack" maker ∉ calls) ∧
      (s.resolve "Pack").value ∉ ["Rocket"] := by
  intro calls s
  have hregister : ∀ maker, .register "Pack" maker ∉ calls := by simp [calls]
  exact ⟨by decide +kernel, by decide +kernel, by decide, hregister, by decide +kernel⟩

end LevelForge.Spawner
