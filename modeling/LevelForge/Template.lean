import LevelForge.World
import LevelForge.Text.Quoted

/-!
# Templates

A template is the grid of symbols of one segment: rows of equal width, the top row first. A cell
without a symbol, or with the symbol `0`, is empty.

* `ofRows?_isOk_iff`: rows form a template exactly when they are equally long.
-/

namespace LevelForge

/-- One cell of a grid: a symbol, or nothing. -/
abbrev Cell := Option String

/-- Whether a cell is empty. -/
def Cell.isEmpty : Cell → Bool
  | none => true
  | some symbol => symbol == World.emptySymbol

/-- The width of rows: the length of the first one, and zero where there is none. -/
def rowWidth (rows : List (List Cell)) : Nat := (rows.head?.map List.length).getD 0

/-- A rectangular grid of symbols, the top row first. -/
structure Template where
  rows : List (List Cell)
  -- all rows are as long as the first
  rectangular : ∀ row ∈ rows, row.length = rowWidth rows
  deriving DecidableEq

/-- Rows of unequal widths. -/
structure Ragged where
  -- the width of every row in order
  widths : List Nat
  deriving DecidableEq, Repr

/-- What is said about rows of unequal widths. -/
def Ragged.message (fault : Ragged) : String :=
  "Level block rows differ in width: " ++ Text.listNumbers fault.widths

namespace Template

/-- The number of rows. -/
def height (t : Template) : Nat := t.rows.length

/-- The number of columns; a grid without rows has none. -/
def width (t : Template) : Nat := rowWidth t.rows

/-- The template with the given rows, or the widths of the rows when they differ. -/
def ofRows? (rows : List (List Cell)) : Except Ragged Template :=
  if h : ∀ row ∈ rows, row.length = rowWidth rows then .ok ⟨rows, h⟩
  else .error ⟨rows.map List.length⟩

/-- The rows of a template are the rows it was made from. -/
theorem ofRows?_eq_ok_iff {rows : List (List Cell)} {t : Template} :
    ofRows? rows = .ok t ↔ t.rows = rows := by
  unfold ofRows?
  split
  · next h =>
    constructor
    · intro heq; cases heq; rfl
    · rintro rfl; rfl
  · next h =>
    constructor
    · intro heq; cases heq
    · rintro rfl; exact absurd t.rectangular h

/-- Rows form a template exactly when any two of them are equally long. -/
theorem ofRows?_isOk_iff {rows : List (List Cell)} :
    (∃ t, ofRows? rows = .ok t) ↔ ∀ row ∈ rows, ∀ row' ∈ rows, row.length = row'.length := by
  constructor
  · rintro ⟨t, ht⟩ row hrow row' hrow'
    obtain rfl := ofRows?_eq_ok_iff.mp ht
    rw [t.rectangular row hrow, t.rectangular row' hrow']
  · intro h
    cases rows with
    | nil => exact ⟨⟨[], by simp⟩, rfl⟩
    | cons first rest =>
      have hall : ∀ row ∈ first :: rest, row.length = rowWidth (first :: rest) :=
        fun row hrow => h row hrow first (by simp)
      exact ⟨⟨first :: rest, hall⟩, by simp [ofRows?_eq_ok_iff]⟩

/-- One row of the same symbol. -/
def floor (width : Nat) : Template :=
  ⟨[List.replicate width (some World.floorSymbol)], by simp [rowWidth]⟩

/-- The spawn floor of a level. -/
def spawnFloor : Template := floor World.spawnFloorWidth

/-- One column that holds the end trigger. -/
def endWall : Template where
  rows := (List.range World.endWallHeight).map fun row =>
    [if row = World.endTriggerRow then some World.endTriggerSymbol else none]
  rectangular := by decide

/-- A flat floor with a boss standing on it. -/
def arena (boss : String) : Template where
  rows :=
    [(List.range World.arenaWidth).map fun column =>
       if column = World.bossColumn then some boss else none,
     List.replicate World.arenaWidth (some World.floorSymbol)]
  rectangular := by simp [rowWidth]

end Template

end LevelForge
