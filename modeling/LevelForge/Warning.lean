import LevelForge.Text.Quoted
import LevelForge.World

/-!
# Warnings

What generation reports without stopping: a symbol nothing is known about, and a level whose
segments have no width.
-/

namespace LevelForge

/-- Something that was noticed and passed over. -/
inductive Warning where
  -- a symbol that is neither registered nor a group; a placeholder was built
  | unknownSymbol (symbol : String)
  -- a whole round of segments without width; generation stopped
  | zeroWidthLevel (levelId : String)
  deriving DecidableEq, Repr

/-- What a warning says. -/
def Warning.message : Warning → String
  | .unknownSymbol symbol =>
    s!"Unknown element symbol {Text.quote symbol}, placing {World.placeholderSymbol} instead"
  | .zeroWidthLevel levelId =>
    s!"Level {Text.quote levelId} produces only zero-width structures; stopping generation"

end LevelForge
