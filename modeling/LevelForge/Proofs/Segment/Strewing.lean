import LevelForge.Proofs.Segment.Footprint
import LevelForge.Proofs.Level.Recast

/-!
# Strewing coins

With coins switched on a segment asks for more: a coin for each of its empty cells into which one
falls. Here its placements carry the word whether they are such coins. Without these they are what
the segment asks for with coins switched off.

* `Segment.strewing`: the placements of a segment with coins, the strewn ones marked.
* `Segment.map_fst_strewing`, `unstrewn_strewing`: with and without the marked ones.
-/

namespace LevelForge

/-- What is not marked as strewn. -/
def unstrewn {α : Type} (marked : List (α × Bool)) : List α :=
  marked.filterMap fun entry => if entry.2 then none else some entry.1

section Unstrewn

variable {α : Type}

@[simp]
theorem unstrewn_nil : unstrewn ([] : List (α × Bool)) = [] := rfl

/-- What is strewn is left out. -/
@[simp]
theorem unstrewn_cons_true (a : α) (marked : List (α × Bool)) :
    unstrewn ((a, true) :: marked) = unstrewn marked := rfl

/-- What is not strewn stays. -/
@[simp]
theorem unstrewn_cons_false (a : α) (marked : List (α × Bool)) :
    unstrewn ((a, false) :: marked) = a :: unstrewn marked := rfl

/-- Leaving out what is strewn goes part by part. -/
@[simp]
theorem unstrewn_append (marked marked' : List (α × Bool)) :
    unstrewn (marked ++ marked') = unstrewn marked ++ unstrewn marked' :=
  List.filterMap_append

/-- Nothing is left of what is all strewn. -/
@[simp]
theorem unstrewn_map_true (as : List α) : unstrewn (as.map (·, true)) = [] := by
  rw [unstrewn, List.filterMap_map]
  exact List.filterMap_eq_nil_iff.mpr fun _ _ => rfl

/-- Everything is left of what is not strewn at all. -/
@[simp]
theorem unstrewn_map_false (as : List α) : unstrewn (as.map (·, false)) = as := by
  rw [unstrewn, List.filterMap_map]
  exact List.filterMap_some

end Unstrewn

namespace Segment

/-- A row of a segment with coins. What stands in an empty cell is a strewn coin. -/
def rowStrewing (s : Segment) (x top : Int) (key : Random.Key) (row : List Cell × Nat) :
    List (Placement × Bool) :=
  row.1.zipIdx.filterMap fun (cell, c) =>
    (cellSymbol (some key) s.template.width row.2 c cell).map fun symbol =>
      ({ symbol, x := x + c, y := top + row.2 : Placement }, cell.isEmpty)

/-- What a segment with coins asks to be placed, each placement with the word whether it is a coin
strewn into an empty cell. -/
def strewing (s : Segment) (x height : Int) (key : Random.Key) : List (Placement × Bool) :=
  s.resolvedRows.zipIdx.flatMap (s.rowStrewing x (height - s.template.height) key) ++
    (s.gapPlacements x height).map (·, false)

section Strewing

variable (s : Segment) (x height : Int) (key : Random.Key)

/-- Beside the marks stand the placements of the row with coins. -/
theorem map_fst_rowStrewing (top : Int) (row : List Cell × Nat) :
    (s.rowStrewing x top key row).map Prod.fst = s.rowPlacements x top (some key) row := by
  simp only [rowStrewing, rowPlacements, List.map_filterMap, Option.map_map]
  rfl

/-- With its marked placements this is what a segment asks for with coins. -/
theorem map_fst_strewing :
    (s.strewing x height key).map Prod.fst = s.placements x height (some key) := by
  rw [placements_eq, strewing, List.map_append, List.map_flatMap]
  simp only [map_fst_rowStrewing, List.map_map, Function.comp_def, List.map_id']

/-- An empty cell without coins stays empty, and any other cell has its own symbol. -/
theorem cellSymbol_none (width row column : Nat) (cell : Cell) :
    cellSymbol none width row column cell =
      if cell.isEmpty then none else cellSymbol (some key) width row column cell := by
  unfold cellSymbol
  split <;> rfl

/-- Without its marked placements this is what a segment asks for without coins. -/
theorem unstrewn_strewing : unstrewn (s.strewing x height key) = s.placements x height none := by
  have hrow (top : Int) (row : List Cell × Nat) :
      unstrewn (s.rowStrewing x top key row) = s.rowPlacements x top none row := by
    rw [unstrewn, rowStrewing, List.filterMap_filterMap, rowPlacements]
    congr 1
    funext ⟨cell, c⟩
    dsimp only
    rw [cellSymbol_none key]
    cases cell.isEmpty <;> cases cellSymbol (some key) s.template.width row.2 c cell <;> rfl
  rw [placements_eq, strewing, unstrewn_append, unstrewn_map_false]
  simp only [unstrewn, List.filterMap_flatMap] at hrow ⊢
  simp only [hrow]

/-- What is strewn is coins. -/
theorem symbol_eq_of_mem_strewing {p : Placement} (h : (p, true) ∈ s.strewing x height key) :
    p.symbol = World.coinSymbol := by
  rcases List.mem_append.mp h with h | h
  · obtain ⟨row, -, h⟩ := List.mem_flatMap.mp h
    obtain ⟨⟨cell, c⟩, -, h⟩ := List.mem_filterMap.mp h
    obtain ⟨symbol, hsymbol, h⟩ := Option.map_eq_some_iff.mp h
    simp only [Prod.mk.injEq] at h
    obtain ⟨rfl, hempty⟩ := h
    simp only [cellSymbol, hempty, if_true] at hsymbol
    split at hsymbol
    · exact (Option.some.inj hsymbol).symm
    · cases hsymbol
  · obtain ⟨_, -, h⟩ := List.mem_map.mp h
    cases h

end Strewing

section Aliases

variable {s : Segment} {aliases : Table String}
  (h : ∀ symbol, aliases.get? symbol = s.aliases.get? symbol)

include h

/-- What the symbols of a segment stand for does not depend on the order of its table of aliases. -/
theorem resolvedRows_withAliases : (s.withAliases aliases).resolvedRows = s.resolvedRows := by
  have hcell : (s.withAliases aliases).resolveCell = s.resolveCell := by
    funext cell
    simp only [resolveCell, withAliases, h]
  rw [resolvedRows, hcell]
  rfl

theorem placements_withAliases (x height : Int) (coins : Option Random.Key) :
    (s.withAliases aliases).placements x height coins = s.placements x height coins := by
  rw [placements_eq, resolvedRows_withAliases h]
  rfl

end Aliases

end Segment

end LevelForge
