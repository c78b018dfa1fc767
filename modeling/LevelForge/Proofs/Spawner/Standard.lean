import LevelForge.Proofs.Segment.BuiltIn
import LevelForge.Proofs.Spawner.SetUp
import Mathlib.Data.List.ReduceOption

/-!
# Standard spawners

A spawner that was created without makers and groups of its own records what it is asked for: a
symbol that it knows stays as it is, a group becomes one of its members, and what it does not know
becomes the placeholder.

* `IsStandard.resolve_eq_iff`: which symbols become a given one.
* `IsStandard.madeOf_spawnFloor_eq_iff`, `filter_madeOf_endWall_eq_iff`: what becomes of the spawn
  floor and of the end wall.
-/

namespace LevelForge.Spawner

/-! ## What is made of placements -/

/-- The elements that a spawner makes of placements. -/
def madeOf (s : Spawner) (placements : List Placement) : List Element :=
  (s.placeAll placements).value.reduceOption

/-- A spawner comes out of its placements having made their elements. -/
theorem exists_placeAll_eq (s : Spawner) (placements : List Placement) :
    ∃ key, (s.placeAll placements).spawner = s.having key (s.madeOf placements) := by
  induction placements generalizing s with
  | nil => exact ⟨s.key, by simp [placeAll, madeOf, reseed]⟩
  | cons p rest ih =>
    obtain ⟨value, key₁, warnings, hplace, -⟩ := (SameSetUp.refl s).place_eq rfl p
    obtain ⟨key, hrest⟩ := ih (s.having key₁ value.toList)
    refine ⟨key, ?_⟩
    simp only [madeOf, placeAll, hplace] at hrest ⊢
    rw [hrest, having_having]
    cases value <;> simp

/-- The elements of some placements come before those of the placements behind them. -/
theorem madeOf_append (s : Spawner) (front behind : List Placement) :
    s.madeOf (front ++ behind) =
      s.madeOf front ++ (s.placeAll front).spawner.madeOf behind := by
  induction front generalizing s with
  | nil => rfl
  | cons p rest ih =>
    have hrest := ih (s.place p).spawner
    simp only [madeOf, placeAll, List.cons_append] at hrest ⊢
    cases (s.place p).value <;> simp [hrest]

/-! ## Makers that record -/

/-- Every maker of a table records. -/
def OnlyRecords (registry : Table Maker) : Prop :=
  ∀ symbol maker, registry.get? symbol = some maker → maker = Maker.record

/-- A maker that records may take the place of another. -/
theorem OnlyRecords.insert {registry : Table Maker} (h : OnlyRecords registry) (symbol : String) :
    OnlyRecords (registry.insert symbol Maker.record) := by
  intro other maker hmaker
  rw [Table.get?_insert] at hmaker
  split at hmaker
  · exact (Option.some.inj hmaker).symm
  · exact h other maker hmaker

/-- A maker that records may be added. -/
theorem OnlyRecords.insertNew {registry : Table Maker} (h : OnlyRecords registry)
    (symbol : String) : OnlyRecords (registry.insertNew symbol Maker.record) := by
  unfold Table.insertNew
  split
  · exact h
  · exact h.insert symbol

/-- The makers of the standard registry record. -/
theorem onlyRecords_standardRegistry : OnlyRecords standardRegistry := by
  refine List.foldlRecOn (motive := OnlyRecords) _ _ nofun fun registry h entry hentry => ?_
  obtain ⟨kind, -, rfl⟩ := List.mem_map.mp hentry
  exact h.insert kind.1

/-- The makers that a group brings with it record. -/
theorem OnlyRecords.registerGroup {s : Spawner} (h : OnlyRecords s.registry) (group : String)
    (members : List String) : OnlyRecords (s.registerGroup group members).registry :=
  List.foldlRecOn (motive := OnlyRecords) members _ h fun _ h member _ => h.insertNew member

/-- The makers of a new spawner record. -/
theorem onlyRecords_create : OnlyRecords create.registry :=
  List.foldlRecOn (motive := fun s : Spawner => OnlyRecords s.registry) _ _
    (onlyRecords_standardRegistry.insertNew _) fun _ h group _ => h.registerGroup group.1 group.2

/-! ## Standard spawners -/

/-- A group that is found is one of the groups. -/
theorem mem_entries_of_lookUp {s : Spawner} {symbol first : String} {others : List String}
    (h : s.lookUp symbol = .group first others) : (symbol, first :: others) ∈ s.groups.entries := by
  unfold lookUp at h
  split at h
  · cases h
  · split at h
    · next hmembers =>
      cases h
      exact Table.mem_entries_of_get? hmembers
    · cases h

/-- A spawner with the standard makers and groups, in a world of any height and after any use. -/
structure IsStandard (s : Spawner) : Prop where
  registry : ∀ symbol, s.registry.get? symbol = create.registry.get? symbol
  groups : ∀ group, s.groups.get? group = create.groups.get? group

/-- A new spawner with the standard registry and groups is standard, whatever else it is given. -/
theorem isStandard_create (worldHeight : Int) (key : Random.Key) (record listen : Bool) :
    (create standardRegistry standardGroups worldHeight key record listen).IsStandard :=
  ⟨fun _ => rfl, fun _ => rfl⟩

namespace IsStandard

variable {s t : Spawner}

/-- A spawner that is set up like a standard one is standard. -/
theorem of_sameSetUp (h : s.IsStandard) (hsame : s.SameSetUp t) : t.IsStandard where
  registry symbol := (hsame.registry symbol).symm.trans (h.registry symbol)
  groups group := (hsame.groups group).symm.trans (h.groups group)

/-- A standard spawner knows what a new one knows. -/
theorem lookUp_eq (h : s.IsStandard) (symbol : String) :
    s.lookUp symbol = create.lookUp symbol := by
  unfold lookUp Table.contains
  rw [h.registry, h.groups]

/-- Whatever a standard spawner resolves to has a maker. -/
theorem closed (h : s.IsStandard) : s.Closed := by
  have hcreate : create.Closed := (Made.create _ _ _ _ _ _).closed
  have hcontains (symbol : String) :
      s.registry.contains symbol = create.registry.contains symbol := by
    rw [Table.contains, h.registry, Table.contains]
  refine ⟨?_, fun group members hmembers member hmember => ?_⟩
  · rw [hcontains]
    exact hcreate.placeholder
  · rw [hcontains]
    exact hcreate.members group members ((h.groups group).symm.trans hmembers) member hmember

/-- A symbol that is known and in no group stands for itself, the placeholder also for all that is
unknown, and nothing else stands for it. -/
theorem resolve_eq_iff (h : s.IsStandard) {kept : String}
    (hknown : create.registry.contains kept = true)
    (hungrouped : ∀ entry ∈ create.groups.entries, kept ∉ entry.2) (symbol : String) :
    (s.resolve symbol).value = kept ↔
      symbol = kept ∨ create.lookUp symbol = .unknown ∧ kept = World.placeholderSymbol := by
  have hne (hother : create.lookUp symbol ≠ .registered) : symbol ≠ kept := by
    rintro rfl
    exact hother (if_pos hknown)
  unfold resolve
  rw [h.lookUp_eq]
  cases hlookUp : create.lookUp symbol with
  | registered => simp
  | group first others =>
    -- a member of the group is chosen, and the symbol is none of them
    have hchosen (draw : Random.Key) : choose draw first others ≠ kept := by
      intro hchosen
      have hmembers := mem_entries_of_lookUp hlookUp
      exact hungrouped _ hmembers (hchosen ▸ List.get_mem _ _)
    simp [hchosen, hne (by rw [hlookUp]; nofun)]
  | unknown => simp [hne (by rw [hlookUp]; nofun), eq_comm]

/-- A standard spawner makes a record of what it is asked for. -/
theorem value_place (h : s.IsStandard) (p : Placement) :
    (s.place p).value =
      some (.placement { p with symbol := (s.resolve p.symbol).value }) := by
  obtain ⟨key, hresolve⟩ := s.exists_resolve_eq p.symbol
  obtain ⟨maker, hmaker⟩ := Option.isSome_iff_exists.mp (h.closed.contains_resolve p.symbol)
  obtain rfl := onlyRecords_create _ _ ((h.registry _).symm.trans hmaker)
  unfold place
  simp only [hresolve, hmaker]
  rfl

/-- Placing leaves a spawner standard. -/
theorem place (h : s.IsStandard) (p : Placement) : (s.place p).spawner.IsStandard := by
  obtain ⟨value, key, warnings, hplace, -⟩ := (SameSetUp.refl s).place_eq rfl p
  rw [hplace]
  exact h.of_sameSetUp (s.sameSetUp_having key value.toList)

/-- Placing one after the other leaves a spawner standard. -/
theorem placeAll (h : s.IsStandard) (placements : List Placement) :
    (s.placeAll placements).spawner.IsStandard := by
  obtain ⟨key, heq⟩ := s.exists_placeAll_eq placements
  rw [heq]
  exact h.of_sameSetUp (s.sameSetUp_having key _)

theorem madeOf_cons (h : s.IsStandard) (p : Placement) (rest : List Placement) :
    s.madeOf (p :: rest) =
      .placement { p with symbol := (s.resolve p.symbol).value } ::
        (s.place p).spawner.madeOf rest := by
  simp only [madeOf, Spawner.placeAll, h.value_place, List.reduceOption_cons_of_some]

/-- Placements whose symbols stand for known ones leave these in their places. -/
theorem madeOf_eq_map (h : s.IsStandard) {symbol : String} {placements : List Placement}
    (hstands : ∀ p ∈ placements, ∀ t : Spawner, t.IsStandard →
      (t.resolve p.symbol).value = symbol) :
    s.madeOf placements = placements.map fun p => .placement { p with symbol } := by
  induction placements generalizing s with
  | nil => rfl
  | cons p rest ih =>
    rw [h.madeOf_cons, hstands p List.mem_cons_self s h,
      ih (h.place p) fun other hother => hstands other (List.mem_cons_of_mem _ hother),
      List.map_cons]

/-- A symbol with a maker of its own resolves to itself. -/
theorem resolve_of_known (h : s.IsStandard) {symbol : String}
    (hknown : create.registry.contains symbol = true) : (s.resolve symbol).value = symbol := by
  have hregistered : s.registry.contains symbol = true := by
    rw [Table.contains, h.registry]
    exact hknown
  rw [resolve_of_registered hregistered]

/-- Floor tiles stand for themselves and for all that is unknown. -/
theorem resolve_eq_floor_iff (h : s.IsStandard) (symbol : String) :
    (s.resolve symbol).value = World.floorSymbol ↔
      symbol = World.floorSymbol ∨ create.lookUp symbol = .unknown := by
  rw [h.resolve_eq_iff (by decide +kernel) (by decide +kernel)]
  exact or_congr_right (and_iff_left rfl)

/-- Only the end trigger stands for itself. -/
theorem resolve_eq_endTrigger_iff (h : s.IsStandard) (symbol : String) :
    (s.resolve symbol).value = World.endTriggerSymbol ↔ symbol = World.endTriggerSymbol := by
  rw [h.resolve_eq_iff (by decide +kernel) (by decide +kernel)]
  exact or_iff_left fun hplaceholder => absurd hplaceholder.2 (by decide)

/-- Coins are made of coins. -/
theorem symbol_eq_of_mem_madeOf (h : s.IsStandard) {placements : List Placement}
    (hcoins : ∀ p ∈ placements, p.symbol = World.coinSymbol) {e : Element}
    (he : e ∈ s.madeOf placements) : e.origin.symbol = World.coinSymbol := by
  have hstands : ∀ p ∈ placements, ∀ t : Spawner, t.IsStandard →
      (t.resolve p.symbol).value = World.coinSymbol := by
    intro p hp t ht
    rw [hcoins p hp]
    exact ht.resolve_of_known (by decide +kernel)
  rw [h.madeOf_eq_map hstands] at he
  obtain ⟨p, -, rfl⟩ := List.mem_map.mp he
  rfl

/-! ## The built-in segments -/

section BuiltIn

variable (aliases : Table String) (x height : Int) (coins : Option Random.Key)

/-- The spawn floor becomes a floor of floor tiles exactly when the aliases make these a symbol
that floor tiles stand for. -/
theorem madeOf_spawnFloor_eq_iff (h : s.IsStandard) :
    s.madeOf ((Segment.spawnFloor aliases).placements x height coins) =
        (World.tiles World.floorSymbol x height World.spawnFloorWidth).map .placement ↔
      aliases.aliasOf World.floorSymbol ≠ World.emptySymbol ∧
        (aliases.aliasOf World.floorSymbol = World.floorSymbol ∨
          create.lookUp (aliases.aliasOf World.floorSymbol) = .unknown) := by
  by_cases hempty : aliases.aliasOf World.floorSymbol = World.emptySymbol
  · -- all that is made is coins
    refine ⟨fun heq => ?_, fun hne => absurd hempty hne.1⟩
    have hfirst := heq ▸ List.mem_map_of_mem (World.first_mem_tiles World.floorSymbol x height)
    have hcoin : World.floorSymbol = World.coinSymbol := h.symbol_eq_of_mem_madeOf
      (fun p => Segment.symbol_eq_of_mem_spawnFloor x height coins hempty) hfirst
    exact absurd hcoin (by decide)
  · rw [Segment.placements_spawnFloor x height coins rfl hempty, ← h.resolve_eq_floor_iff]
    generalize aliases.aliasOf World.floorSymbol = tile at hempty ⊢
    refine ⟨fun heq => ⟨hempty, ?_⟩, fun hstands => ?_⟩
    · -- the first tile tells what the symbol stands for
      simp only [World.tiles, World.spawnFloorWidth, List.range_succ_eq_map, List.map_cons,
        h.madeOf_cons] at heq
      exact congrArg (·.origin.symbol) (List.cons.inj heq).1
    · have hall := (h.resolve_eq_floor_iff tile).mp hstands.2
      rw [h.madeOf_eq_map fun p hp t ht => by
        rw [World.symbol_eq_of_mem_tiles hp, ht.resolve_eq_floor_iff]
        exact hall]
      simp only [World.tiles, List.map_map, Function.comp_def]

/-- The end wall comes to hold the end trigger, and besides it only coins, exactly when the aliases
leave the end trigger alone. -/
theorem filter_madeOf_endWall_eq_iff (h : s.IsStandard) :
    (s.madeOf ((Segment.endWall aliases).placements x height coins)).filter
        (·.origin.symbol ≠ World.coinSymbol) =
          [.placement (World.trigger World.endTriggerSymbol x height)] ↔
      aliases.aliasOf World.endTriggerSymbol = World.endTriggerSymbol := by
  by_cases hempty : aliases.aliasOf World.endTriggerSymbol = World.emptySymbol
  · have hnone : (s.madeOf ((Segment.endWall aliases).placements x height coins)).filter
        (·.origin.symbol ≠ World.coinSymbol) = [] := by
      simpa using fun e => h.symbol_eq_of_mem_madeOf
        (fun p => Segment.symbol_eq_of_mem_endWall x height coins hempty)
    rw [hnone, hempty]
    exact ⟨nofun, fun heq => absurd heq (by decide)⟩
  · obtain ⟨before, after, heq, hbefore, hafter⟩ :=
      Segment.exists_placements_endWall x height coins rfl hempty
    generalize aliases.aliasOf World.endTriggerSymbol = tile at heq ⊢
    have ht := h.placeAll before
    have hmade {placements : List Placement} {t : Spawner} (ht : t.IsStandard)
        (hcoins : ∀ p ∈ placements, p.symbol = World.coinSymbol) :
        ∀ e ∈ t.madeOf placements, decide (e.origin.symbol ≠ World.coinSymbol) = false := by
      simpa using fun e => ht.symbol_eq_of_mem_madeOf hcoins
    rw [heq, madeOf_append, ht.madeOf_cons, ← ht.resolve_eq_endTrigger_iff,
      filter_between (hmade h hbefore) (hmade (ht.place _) hafter)]
    constructor
    · exact fun hleft => (congrArg (·.origin.symbol) (eq_of_filter_singleton hleft)).symm
    · intro hstands
      change List.filter _ [Element.placement
        { World.trigger tile x height with symbol := (Spawner.resolve _ tile).value }] = _
      rw [hstands]
      rfl

end BuiltIn

end IsStandard

end LevelForge.Spawner
