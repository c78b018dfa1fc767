import LevelForge.Proofs.Segment.Footprint

/-!
# The built-in segments

What the spawn floor and the end wall ask to be placed. Their symbols go through the aliases of the
level as all others do, so the tiles of the floor and the trigger of the wall are whatever these
make of them; every other placement is a coin.

* `Segment.placements_spawnFloor_eq_iff`: the floor is one of floor tiles exactly when the aliases
  leave the floor tile alone.
* `Segment.filter_placements_endWall_eq_iff`: the wall holds the end trigger, and but for coins
  nothing else, exactly when the aliases leave the end trigger alone.
-/

namespace LevelForge

/-- The symbol that aliases make of a symbol. -/
def Table.aliasOf (aliases : Table String) (symbol : String) : String :=
  (aliases.get? symbol).getD symbol

/-- Tiles of one symbol side by side on the floor of the world. -/
def World.tiles (symbol : String) (x height : Int) (count : Nat) : List Placement :=
  (List.range count).map fun (i : Nat) => { symbol, x := x + i, y := height - 1 }

/-- A trigger in the end wall whose column is `x`. -/
def World.trigger (symbol : String) (x height : Int) : Placement :=
  { symbol, x, y := height - 5 }

theorem World.symbol_eq_of_mem_tiles {symbol : String} {x height : Int} {count : Nat}
    {p : Placement} (hp : p ∈ World.tiles symbol x height count) : p.symbol = symbol := by
  obtain ⟨_, -, rfl⟩ := List.mem_map.mp hp
  rfl

theorem World.first_mem_tiles (symbol : String) (x height : Int) :
    ⟨symbol, x + 0, height - 1, []⟩ ∈ World.tiles symbol x height World.spawnFloorWidth :=
  List.mem_map.mpr ⟨0, by decide, rfl⟩

/-- Of an entry between others only it may be left when the others are dropped. -/
theorem filter_between {α : Type} {keep : α → Bool} {before after : List α}
    (hbefore : ∀ a ∈ before, keep a = false) (hafter : ∀ a ∈ after, keep a = false) (a : α) :
    (before ++ a :: after).filter keep = [a].filter keep := by
  have hdropped {others : List α} (hothers : ∀ a ∈ others, keep a = false) :
      others.filter keep = [] := by
    simpa using hothers
  rw [List.filter_append, ← List.singleton_append, List.filter_append, hdropped hbefore,
    hdropped hafter, List.nil_append, List.append_nil]

theorem eq_of_filter_singleton {α : Type} {keep : α → Bool} {a b : α}
    (h : [a].filter keep = [b]) : b = a := by
  have hmem : b ∈ [a].filter keep := h ▸ List.mem_singleton_self b
  exact List.mem_singleton.mp (List.mem_of_mem_filter hmem)

namespace Segment

section Rows

variable {s : Segment} {x top : Int} {coins : Option Random.Key}

/-- A row of one symbol places it in each of its columns. -/
theorem rowPlacements_replicate {symbol : String} (hsymbol : symbol ≠ World.emptySymbol)
    (count row : Nat) :
    s.rowPlacements x top coins (List.replicate count (some symbol), row) =
      (List.range count).map fun (c : Nat) => { symbol, x := x + c, y := top + row } := by
  have hcell (column : Nat) : cellSymbol coins s.template.width row column (some symbol) =
      some symbol := by
    simp [cellSymbol, Cell.isEmpty, hsymbol]
  have hnumbered : (List.replicate count (some symbol)).zipIdx =
      (List.range count).map fun c => (some symbol, c) := by
    apply List.ext_getElem <;> simp
  simp only [rowPlacements, hnumbered, List.filterMap_map, Function.comp_def, hcell,
    Option.map_some, List.filterMap_eq_map']

/-- A row of empty cells asks for nothing but coins. -/
theorem symbol_eq_of_mem_rowPlacements {row : List Cell} {r : Nat}
    (hempty : ∀ cell ∈ row, cell.isEmpty = true) {p : Placement}
    (hp : p ∈ s.rowPlacements x top coins (row, r)) : p.symbol = World.coinSymbol := by
  obtain ⟨⟨cell, c⟩, hcell, hp⟩ := List.mem_filterMap.mp hp
  obtain ⟨symbol, hsymbol, rfl⟩ := Option.map_eq_some_iff.mp hp
  have hcellEmpty : cell.isEmpty = true := hempty cell (List.fst_mem_of_mem_zipIdx hcell)
  simp only [cellSymbol, hcellEmpty, if_true] at hsymbol
  split at hsymbol
  · cases hsymbol
  · split at hsymbol
    · exact (Option.some.inj hsymbol).symm
    · cases hsymbol

/-- Rows of empty cells ask for nothing but coins. -/
theorem symbol_eq_of_mem_flatMap {rows : List (List Cell)} {first : Nat}
    (hempty : ∀ row ∈ rows, ∀ cell ∈ row, cell.isEmpty = true) {p : Placement}
    (hp : p ∈ (rows.zipIdx first).flatMap (s.rowPlacements x top coins)) :
    p.symbol = World.coinSymbol := by
  obtain ⟨⟨row, r⟩, hrow, hp⟩ := List.mem_flatMap.mp hp
  exact symbol_eq_of_mem_rowPlacements (hempty row (List.fst_mem_of_mem_zipIdx hrow)) hp

end Rows

/-- A segment without a gap asks for its rows alone. -/
theorem placements_of_gap_eq_zero {s : Segment} (hgap : s.gap = 0) (x height : Int)
    (coins : Option Random.Key) :
    s.placements x height coins =
      s.resolvedRows.zipIdx.flatMap (s.rowPlacements x (height - s.template.height) coins) := by
  rw [placements_eq, gapPlacements, hgap, List.range_zero, List.map_nil, List.append_nil]

section BuiltIn

variable {aliases : Table String} {tile : String} (x height : Int) (coins : Option Random.Key)

theorem resolvedRows_spawnFloor (htile : aliases.aliasOf World.floorSymbol = tile) :
    (spawnFloor aliases).resolvedRows = [List.replicate World.spawnFloorWidth (some tile)] := by
  rw [← htile]
  rfl

/-- The spawn floor is a row of the symbol that the aliases make of the floor tile. -/
theorem placements_spawnFloor (htile : aliases.aliasOf World.floorSymbol = tile)
    (hne : tile ≠ World.emptySymbol) :
    (spawnFloor aliases).placements x height coins =
      World.tiles tile x height World.spawnFloorWidth := by
  rw [placements_of_gap_eq_zero rfl, resolvedRows_spawnFloor htile, List.zipIdx_singleton,
    List.flatMap_singleton, rowPlacements_replicate hne]
  simp [World.tiles, spawnFloor, Template.height, Template.spawnFloor, Template.floor]

/-- Aliases that make nothing of the floor tile leave no floor but coins. -/
theorem symbol_eq_of_mem_spawnFloor
    (htile : aliases.aliasOf World.floorSymbol = World.emptySymbol)
    {p : Placement} (hp : p ∈ (spawnFloor aliases).placements x height coins) :
    p.symbol = World.coinSymbol := by
  rw [placements_of_gap_eq_zero rfl, resolvedRows_spawnFloor htile] at hp
  refine symbol_eq_of_mem_flatMap (fun row hrow cell hcell => ?_) hp
  rw [List.mem_singleton.mp hrow] at hcell
  rw [List.eq_of_mem_replicate hcell]
  rfl

theorem resolvedRows_endWall (htrigger : aliases.aliasOf World.endTriggerSymbol = tile) :
    (endWall aliases).resolvedRows =
      List.replicate 4 [none] ++ [some tile] :: List.replicate 4 [none] := by
  rw [← htrigger]
  rfl

/-- The end wall holds one trigger, the symbol that the aliases make of it, and coins. -/
theorem exists_placements_endWall
    (htrigger : aliases.aliasOf World.endTriggerSymbol = tile)
    (hne : tile ≠ World.emptySymbol) :
    ∃ before after, (endWall aliases).placements x height coins =
        before ++ World.trigger tile x height :: after ∧
      (∀ p ∈ before, p.symbol = World.coinSymbol) ∧ ∀ p ∈ after, p.symbol = World.coinSymbol := by
  have hrow : (endWall aliases).rowPlacements x (height - (endWall aliases).template.height) coins
      ([some tile], 4) = [World.trigger tile x height] := by
    rw [← List.replicate_one, rowPlacements_replicate hne]
    simp [World.trigger, World.endWallHeight, endWall, Template.endWall, Template.height]
    omega
  have hnumbered : (endWall aliases).resolvedRows.zipIdx =
      (List.replicate 4 [none]).zipIdx ++
        ([some tile], 4) :: (List.replicate 4 [none]).zipIdx 5 := by
    rw [resolvedRows_endWall htrigger]
    rfl
  have hempty : ∀ row ∈ List.replicate 4 [none], ∀ cell ∈ row, Cell.isEmpty cell = true := by
    decide
  rw [placements_of_gap_eq_zero rfl, hnumbered, List.flatMap_append, List.flatMap_cons, hrow,
    List.singleton_append]
  exact ⟨_, _, rfl, fun p hp => symbol_eq_of_mem_flatMap hempty hp,
    fun p hp => symbol_eq_of_mem_flatMap hempty hp⟩

/-- Aliases that make nothing of the trigger leave nothing but coins in the end wall. -/
theorem symbol_eq_of_mem_endWall
    (htrigger : aliases.aliasOf World.endTriggerSymbol = World.emptySymbol)
    {p : Placement} (hp : p ∈ (endWall aliases).placements x height coins) :
    p.symbol = World.coinSymbol := by
  rw [placements_of_gap_eq_zero rfl, resolvedRows_endWall htrigger] at hp
  exact symbol_eq_of_mem_flatMap (by decide) hp

/-- The spawn floor is a floor of floor tiles exactly when the aliases leave these alone. -/
theorem placements_spawnFloor_eq_iff :
    (spawnFloor aliases).placements x height coins =
        World.tiles World.floorSymbol x height World.spawnFloorWidth ↔
      aliases.aliasOf World.floorSymbol = World.floorSymbol := by
  refine ⟨fun heq => ?_, fun htile => placements_spawnFloor x height coins htile (by decide)⟩
  have hfirst := heq ▸ World.first_mem_tiles World.floorSymbol x height
  by_cases hempty : aliases.aliasOf World.floorSymbol = World.emptySymbol
  · -- a coin is no floor tile
    have hcoin : World.floorSymbol = World.coinSymbol :=
      symbol_eq_of_mem_spawnFloor x height coins hempty hfirst
    exact absurd hcoin (by decide)
  · rw [placements_spawnFloor x height coins rfl hempty] at hfirst
    exact (World.symbol_eq_of_mem_tiles hfirst).symm

/-- The end wall holds the end trigger, and besides it only coins, exactly when the aliases leave
the end trigger alone. -/
theorem filter_placements_endWall_eq_iff :
    ((endWall aliases).placements x height coins).filter (·.symbol ≠ World.coinSymbol) =
        [World.trigger World.endTriggerSymbol x height] ↔
      aliases.aliasOf World.endTriggerSymbol = World.endTriggerSymbol := by
  by_cases hempty : aliases.aliasOf World.endTriggerSymbol = World.emptySymbol
  · have hnone : ((endWall aliases).placements x height coins).filter
        (·.symbol ≠ World.coinSymbol) = [] := by
      simpa using fun p => symbol_eq_of_mem_endWall x height coins hempty
    rw [hnone, hempty]
    exact ⟨nofun, fun heq => absurd heq (by decide)⟩
  · obtain ⟨before, after, heq, hbefore, hafter⟩ :=
      exists_placements_endWall x height coins rfl hempty
    rw [heq, filter_between (by simpa using hbefore) (by simpa using hafter)]
    constructor
    · exact fun hleft => (congrArg Placement.symbol (eq_of_filter_singleton hleft)).symm
    · intro htrigger
      rw [htrigger]
      rfl

end BuiltIn

end Segment

end LevelForge
