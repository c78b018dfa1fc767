import LevelForge.Placement
import LevelForge.Word64

/-!
# Pictures

A picture shows placements in a grid of characters: a glyph for each known symbol, a question mark
for any other, and a full stop where nothing stands. Placements outside the grid are not seen, and
of several at one place the last one is.

* `Picture.glyph`: the glyph of a symbol.
* `Picture.checkSize`: whether there is a picture of a size.
* `Picture.draw`: the lines of a picture.
-/

namespace LevelForge.Preview

/-- Why there is no picture of a size. -/
inductive SizeFault where
  | beyondWord
  | negative
  -- the number of bytes is no word
  | tooManyBytes
  -- the grid does not fit into memory
  | outOfMemory
  deriving DecidableEq, Repr

/-- What is said about a size of which there is no picture, if anything is. -/
def SizeFault.message? : SizeFault → Option String
  | .beyondWord => some "Maximum allowed dimension exceeded"
  | .negative => some "negative dimensions are not allowed"
  | .tooManyBytes =>
    some <| "array is too big; `arr.size * arr.dtype.itemsize` is larger than the maximum " ++
      "possible size."
  | .outOfMemory => none

namespace Picture

/-- The glyphs of the known symbols. -/
def glyphs : List (String × Char) :=
  [("Inanimate", '#'), ("InanimateBox", 'B'), ("EndTrigger", '|'), ("MovingBox", 'M'),
   ("ReflectionBox", 'R'), ("DefaultCoin", 'o'), ("Life", '+'), ("RektKiller", 'k'),
   ("Rocket", 'r'), ("Slurp", 's'), ("Cannon", 'c'), ("RektSmasher", 'X')]

/-- The glyph of a symbol. -/
def glyph (symbol : String) : Char := (glyphs.lookup symbol).getD '?'

/-- The bytes of a cell. -/
def cellBytes : Nat := 4

/-- The bytes of as many copies as a side asks for of something that has `bytes` of them. A side
of zero is passed over, so that the other sides of an empty grid have their limit too. -/
def extend (bytes : Nat) (side : Int) : Except SizeFault Nat :=
  if side < 0 then .error .negative
  else if side = 0 then .ok bytes
  else if Word64.largest < bytes * side.toNat then .error .tooManyBytes
  else .ok (bytes * side.toNat)

/-- Whether there is a picture of a size where so many bytes of memory are left. Both sides have to
be words before the height and then the width is counted. An empty grid needs no memory. -/
def checkSize (memory : Nat) (height width : Int) : Except SizeFault Unit := do
  unless Word64.fits height && Word64.fits width do throw .beyondWord
  let bytes ← extend (← extend cellBytes height) width
  if height ≠ 0 ∧ width ≠ 0 ∧ memory < bytes then throw .outOfMemory

/-- An empty grid. Each row is made for itself, so a grid without rows costs nothing. -/
def blank (height width : Nat) : Array (Array Char) :=
  Array.ofFn fun _ : Fin height => Array.replicate width '.'

/-- Put the glyph of a placement into a grid, unless its place is outside. -/
def mark (height width : Nat) (grid : Array (Array Char)) (p : Placement) : Array (Array Char) :=
  if 0 ≤ p.x ∧ p.x < width ∧ 0 ≤ p.y ∧ p.y < height then
    grid.modify p.y.toNat fun row => row.setIfInBounds p.x.toNat (glyph p.symbol)
  else grid

/-- The grid of a picture. -/
def grid (placements : List Placement) (height width : Nat) : Array (Array Char) :=
  placements.foldl (mark height width) (blank height width)

/-- The lines of a picture, the top row first. -/
def lines (placements : List Placement) (height width : Nat) : List String :=
  (grid placements height width).toList.map fun row => String.ofList row.toList

/-- A picture as one text, drawn where so many bytes of memory are left. -/
def draw (memory : Nat) (placements : List Placement) (height width : Int) :
    Except SizeFault String := do
  checkSize memory height width
  return "\n".intercalate (lines placements height.toNat width.toNat)

end Picture

end LevelForge.Preview
