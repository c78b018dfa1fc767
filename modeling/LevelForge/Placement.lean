import LevelForge.Table

/-!
# Placements and elements

A placement asks for a symbol at a place of the world. A maker answers it with an element of the
scene, or with nothing.
-/

namespace LevelForge

/-- A symbol to be placed at a point of the world, `y` growing downwards. -/
structure Placement where
  symbol : String
  x : Int
  y : Int
  -- modifiers handed on to the maker
  modifiers : List String := []
  deriving DecidableEq, Repr, Inhabited

/-- What stands in a scene once a placement was carried out. -/
inductive Element where
  -- the placement itself, as a record
  | placement (placement : Placement)
  -- a tag that remembers the placement
  | tag (placement : Placement)
  deriving DecidableEq, Repr, Inhabited

/-- The placement an element stands for. -/
def Element.origin : Element → Placement
  | .placement p => p
  | .tag p => p

/-- A maker turns a placement with a registered symbol into an element, or into nothing. -/
abbrev Maker := Placement → Option Element

namespace Maker

/-- The maker that records placements. -/
def record : Maker := fun p => some (.placement p)

/-- The maker of tags. -/
def tag : Maker := fun p => some (.tag p)

/-- The maker that makes nothing. -/
def nothing : Maker := fun _ => none

end Maker

end LevelForge
