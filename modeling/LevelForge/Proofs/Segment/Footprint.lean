import LevelForge.Segment
import Mathlib.Data.List.Nodup

/-!
# The footprint of a segment

Where the placements of a segment lie: in the columns that the segment takes up, on the rows of its
template or on the floor, and no two in one cell.

* `Segment.mem_placements_bounds`: the columns and rows of a placement.
* `Segment.nodup_cells_placements`: the cells of the placements are distinct.
-/

namespace LevelForge

/-- The cell that a placement takes. -/
def Placement.cell (p : Placement) : Int × Int := (p.x, p.y)

namespace Segment

variable {s : Segment} {x height : Int} {coins : Option Random.Key}

/-- The row of a segment in the world, at `top` and below. -/
def rowPlacements (s : Segment) (x top : Int) (coins : Option Random.Key) (row : List Cell × Nat) :
    List Placement :=
  row.1.zipIdx.filterMap fun (cell, c) =>
    (cellSymbol coins s.template.width row.2 c cell).map fun symbol =>
      { symbol, x := x + c, y := top + row.2 : Placement }

/-- The floor behind a segment. -/
def gapPlacements (s : Segment) (x height : Int) : List Placement :=
  (List.range s.gap).map fun (i : Nat) =>
    { symbol := World.floorSymbol, x := x + s.template.width + i, y := height - 1 : Placement }

theorem placements_eq (s : Segment) (x height : Int) (coins : Option Random.Key) :
    s.placements x height coins =
      s.resolvedRows.zipIdx.flatMap (s.rowPlacements x (height - s.template.height) coins) ++
        s.gapPlacements x height := rfl

/-- Aliases do not change the number of rows. -/
theorem length_resolvedRows (s : Segment) : s.resolvedRows.length = s.template.height :=
  List.length_map _

/-- Aliases do not change the width of a row. -/
theorem length_of_mem_resolvedRows {row : List Cell} (hrow : row ∈ s.resolvedRows) :
    row.length = s.template.width := by
  obtain ⟨original, horiginal, rfl⟩ := List.mem_map.mp hrow
  rw [List.length_map]
  exact s.template.rectangular original horiginal

/-- What a row places is in its line and in its columns. -/
theorem mem_rowPlacements_bounds {top : Int} {row : List Cell} {r : Nat} {p : Placement}
    (hp : p ∈ s.rowPlacements x top coins (row, r)) :
    x ≤ p.x ∧ p.x < x + row.length ∧ p.y = top + r := by
  obtain ⟨⟨cell, c⟩, hcell, hsome⟩ := List.mem_filterMap.mp hp
  obtain ⟨symbol, -, rfl⟩ := Option.map_eq_some_iff.mp hsome
  have hlt : c < row.length := (List.mem_zipIdx' hcell).1
  change x ≤ x + c ∧ x + c < x + row.length ∧ top + (r : Int) = top + r
  omega

/-- What a gap places is at the bottom of the world, behind the template. -/
theorem mem_gapPlacements_bounds {p : Placement} (hp : p ∈ s.gapPlacements x height) :
    x + s.template.width ≤ p.x ∧ p.x < x + s.totalWidth ∧ p.y = height - 1 := by
  obtain ⟨i, hi, rfl⟩ := List.mem_map.mp hp
  have hlt := List.mem_range.mp hi
  unfold totalWidth
  change x + s.template.width ≤ x + s.template.width + i ∧
    x + s.template.width + i < x + (s.template.width + s.gap : Nat) ∧ height - 1 = height - 1
  omega

/-- A row of a segment lies inside its template. -/
theorem mem_cells_bounds {p : Placement}
    (hp : p ∈ s.resolvedRows.zipIdx.flatMap
      (s.rowPlacements x (height - s.template.height) coins)) :
    x ≤ p.x ∧ p.x < x + s.template.width ∧ height - s.template.height ≤ p.y ∧ p.y < height := by
  obtain ⟨⟨row, r⟩, hrow, hp⟩ := List.mem_flatMap.mp hp
  obtain ⟨hr, hget⟩ := List.mem_zipIdx' hrow
  have hmem : row ∈ s.resolvedRows := hget ▸ List.getElem_mem hr
  rw [length_resolvedRows] at hr
  obtain ⟨hlow, hhigh, hy⟩ := mem_rowPlacements_bounds hp
  rw [length_of_mem_resolvedRows hmem] at hhigh
  exact ⟨hlow, hhigh, by omega, by omega⟩

/-- A segment stays in its columns, and on the rows of its template or on the floor. -/
theorem mem_placements_bounds {p : Placement} (hp : p ∈ s.placements x height coins) :
    x ≤ p.x ∧ p.x < x + s.totalWidth ∧
      height - max (s.template.height : Int) 1 ≤ p.y ∧ p.y ≤ height - 1 := by
  rw [placements_eq] at hp
  rcases List.mem_append.mp hp with hcell | hgap
  · obtain ⟨hlow, hhigh, htop, hbottom⟩ := mem_cells_bounds hcell
    unfold totalWidth
    exact ⟨hlow, by omega, by omega, by omega⟩
  · obtain ⟨hlow, hhigh, hy⟩ := mem_gapPlacements_bounds hgap
    exact ⟨by omega, hhigh, by omega, by omega⟩

/-- Entries of a numbered list come in the order of their numbers. -/
theorem pairwise_zipIdx {α : Type} (l : List α) :
    l.zipIdx.Pairwise fun a b => a.2 < b.2 := by
  have hnumbers : (l.zipIdx.map Prod.snd).Pairwise (· < ·) := by
    rw [List.zipIdx_map_snd]
    exact List.pairwise_lt_range'
  exact List.pairwise_map.mp hnumbers

/-- A row places nothing twice in one cell. -/
theorem nodup_cells_rowPlacements (s : Segment) (x top : Int) (coins : Option Random.Key)
    (row : List Cell × Nat) :
    (s.rowPlacements x top coins row).Pairwise fun p q => p.cell ≠ q.cell := by
  refine List.pairwise_filterMap.mpr ((pairwise_zipIdx row.1).imp ?_)
  -- the placements of one row lie in different columns
  rintro ⟨cell, c⟩ ⟨cell', c'⟩ hlt p hp q hq heq
  obtain ⟨symbol, -, rfl⟩ := Option.map_eq_some_iff.mp hp
  obtain ⟨symbol', -, rfl⟩ := Option.map_eq_some_iff.mp hq
  have hx : x + (c : Int) = x + c' := congrArg Prod.fst heq
  simp only at hlt
  omega

/-- No two placements of a segment share a cell. -/
theorem nodup_cells_placements (s : Segment) (x height : Int) (coins : Option Random.Key) :
    ((s.placements x height coins).map Placement.cell).Nodup := by
  rw [placements_eq]
  refine List.pairwise_map.mpr (List.pairwise_append.mpr ⟨?_, ?_, ?_⟩)
  · refine List.pairwise_flatMap.mpr ⟨fun row _ => s.nodup_cells_rowPlacements _ _ _ row, ?_⟩
    -- different rows lie at different heights
    refine (pairwise_zipIdx _).imp ?_
    rintro ⟨row, r⟩ ⟨row', r'⟩ hlt p hp q hq heq
    have hy : p.y = q.y := congrArg Prod.snd heq
    rw [(mem_rowPlacements_bounds hp).2.2, (mem_rowPlacements_bounds hq).2.2] at hy
    simp only at hlt
    omega
  · refine List.pairwise_map.mpr (List.pairwise_lt_range.imp ?_)
    intro i i' hlt heq
    have hx : x + s.template.width + (i : Int) = x + s.template.width + i' :=
      congrArg Prod.fst heq
    omega
  · -- the gap lies behind the template
    intro p hp q hq heq
    have hx : p.x = q.x := congrArg Prod.fst heq
    have := (mem_cells_bounds hp).2.1
    have := (mem_gapPlacements_bounds hq).1
    omega

end Segment

end LevelForge
