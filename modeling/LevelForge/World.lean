/-!
# The world

The measures and symbols that the level engine itself brings along: the height of the world, the
spawn floor, the end wall, the boss arena, gaps and coins.
-/

namespace LevelForge.World

/-- The usual number of rows of the world; the last row is the floor. -/
def standardHeight : Nat := 9

/-- The width of the flat floor that every level starts with. -/
def spawnFloorWidth : Nat := 12

/-- The height of the wall that ends a level. -/
def endWallHeight : Nat := 9

/-- The row of the end wall that holds the trigger. -/
def endTriggerRow : Nat := 4

/-- The width of the arena around a boss. -/
def arenaWidth : Nat := 10

/-- The column of the arena in which the boss stands. -/
def bossColumn : Nat := 5

/-- A coin falls into an empty cell when the cell's choice in the unit interval, as a numerator
over `2 ^ 23`, is at most this: one cell in twenty. -/
def coinThreshold : Nat := 419430

/-- The symbol of an empty cell. -/
def emptySymbol : String := "0"

/-- The symbol of a floor tile. -/
def floorSymbol : String := "Inanimate"

/-- The symbol of a coin. -/
def coinSymbol : String := "DefaultCoin"

/-- The symbol of the trigger that ends a level. -/
def endTriggerSymbol : String := "EndTrigger"

/-- The symbol that is built in place of an unknown one. -/
def placeholderSymbol : String := "Inanimate"

/-- The symbols every world knows, each with the group it belongs to. -/
def elementKinds : List (String × Option String) :=
  [("Inanimate", none),
   ("InanimateBox", none),
   ("EndTrigger", none),
   ("MovingBox", some "DynamicInanimate"),
   ("ReflectionBox", some "DynamicInanimate"),
   ("DefaultCoin", some "Pickup"),
   ("Life", some "Pickup"),
   ("RektKiller", some "Enemy"),
   ("Rocket", some "Enemy"),
   ("Slurp", some "Enemy"),
   ("Cannon", some "Enemy"),
   ("RektSmasher", some "Boss")]

end LevelForge.World
