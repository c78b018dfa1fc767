import LevelForge.Template
import LevelForge.Placement
import LevelForge.Random.Key

/-!
# Segments

A segment is a template to be built into the world: its symbols are looked up once in the aliases
of the level, its bottom row stands on the floor, and a gap of floor tiles follows it.

* `Segment.placements`: what a segment asks to be placed, in order.
* `Segment.totalWidth`: how far it moves the frontier of the level.
-/

namespace LevelForge

/-- The role a segment plays in a level. -/
inductive SegmentKind where
  | initial
  -- a block of the level text
  | regular
  | boss
  | terminal
  deriving DecidableEq, Repr, Inhabited

/-- The name of a kind of segment. -/
def SegmentKind.name : SegmentKind → String
  | .initial => "INITIAL"
  | .regular => "REGULAR"
  | .boss => "BOSS"
  | .terminal => "TERMINAL"

/-- A template with the aliases of its level and the gap behind it. -/
structure Segment where
  template : Template
  aliases : Table String := .empty
  kind : SegmentKind := .regular
  -- the number of the template in its level, as it was asked for
  index : Option Int := none
  -- the number of floor tiles behind the template
  gap : Nat := 0

/-- A gap width below zero. -/
structure NegativeGap where
  width : Int
  deriving DecidableEq, Repr

/-- What is said about a gap width below zero. -/
def NegativeGap.message (fault : NegativeGap) : String :=
  s!"gap width must be >= 0, got {fault.width}"

namespace Segment

/-- The flat floor a level starts with. -/
def spawnFloor (aliases : Table String) : Segment :=
  { template := .spawnFloor, aliases, kind := .initial }

/-- The wall that ends a finite level. -/
def endWall (aliases : Table String) : Segment :=
  { template := .endWall, aliases, kind := .terminal }

/-- The arena of a boss. -/
def arena (boss : String) (aliases : Table String) : Segment :=
  { template := .arena boss, aliases, kind := .boss }

/-- The width with the gap: how far the segment moves the frontier. -/
def totalWidth (s : Segment) : Nat := s.template.width + s.gap

/-- The segment with another gap behind it. -/
def withGap (s : Segment) (width : Int) : Except NegativeGap Segment :=
  if width < 0 then .error ⟨width⟩ else .ok { s with gap := width.toNat }

/-- A cell after one look-up of its symbol in the aliases. -/
def resolveCell (s : Segment) (cell : Cell) : Cell :=
  cell.map fun symbol => (s.aliases.get? symbol).getD symbol

/-- The rows of the template with every cell resolved. -/
def resolvedRows (s : Segment) : List (List Cell) :=
  s.template.rows.map (·.map s.resolveCell)

/-- Whether a coin falls into the cell of a grid `width` columns wide. -/
def coinFalls (key : Random.Key) (width row column : Nat) : Bool :=
  decide (key.fraction (row * width + column) ≤ World.coinThreshold)

/-- The symbol that a resolved cell puts into the world: its own if it has one, and otherwise a
coin if coins are strewn and one falls here. -/
def cellSymbol (coins : Option Random.Key) (width row column : Nat) (cell : Cell) : Option String :=
  if cell.isEmpty then
    match coins with
    | none => none
    | some key => if coinFalls key width row column then some World.coinSymbol else none
  else cell

/-- What a segment asks to be placed with its left column at `x` in a world of the given height:
its cells row by row, then the floor of its gap. -/
def placements (s : Segment) (x worldHeight : Int) (coins : Option Random.Key) : List Placement :=
  let width := s.template.width
  let top := worldHeight - s.template.height
  let cells := s.resolvedRows.zipIdx.flatMap fun (row, r) =>
    row.zipIdx.filterMap fun (cell, c) =>
      (cellSymbol coins width r c cell).map fun symbol =>
        { symbol, x := x + c, y := top + r : Placement }
  let gapFloor := (List.range s.gap).map fun (i : Nat) =>
    { symbol := World.floorSymbol, x := x + width + i, y := worldHeight - 1 : Placement }
  cells ++ gapFloor

/-- Two segments are alike when they have the same grid, gap and kind. -/
def alike (a b : Segment) : Bool :=
  a.template == b.template && a.gap == b.gap && a.kind == b.kind

/-- A segment in one line. -/
def describe (s : Segment) : String :=
  let index := (s.index.map toString).getD "None"
  s!"Structure(kind={s.kind.name}, index={index}, " ++
  s!"size={s.template.width}x{s.template.height}, gap={s.gap})"

end Segment

end LevelForge
