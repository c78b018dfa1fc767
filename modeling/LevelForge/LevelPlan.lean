import LevelForge.Ldl.Parser

/-!
# Level plans

What a level is played from: its id, its blueprint, a seed and the mode of play.
-/

namespace LevelForge

/-- How a level is played. -/
inductive PlayMode where
  -- one level of an arcade group
  | arcade
  | infinite
  | daily
  deriving DecidableEq, Repr, Inhabited

namespace PlayMode

/-- All modes of play. -/
def all : List PlayMode := [.arcade, .infinite, .daily]

/-- The name of a mode of play. -/
def name : PlayMode → String
  | .arcade => "Arcade"
  | .infinite => "Infinite"
  | .daily => "LevelOfTheDay"

end PlayMode

/-- What a level is played from. -/
structure LevelPlan where
  levelId : String
  blueprint : Blueprint
  -- the seed of all random choices
  seed : Int := 0
  mode : PlayMode := .arcade

namespace LevelPlan

/-- The plan of a level text, whose blueprint bears the id of the level. -/
def ofText (text : String) (levelId : String := "level") (seed : Int := 0)
    (mode : PlayMode := .arcade) : Except Ldl.Failure LevelPlan := do
  let blueprint ← Ldl.compile text (some levelId)
  return { levelId, blueprint, seed, mode }

/-- Two plans are alike when their ids, seeds and modes are equal and their blueprints alike. -/
def alike (a b : LevelPlan) : Bool :=
  a.levelId == b.levelId && a.blueprint.alike b.blueprint && a.seed == b.seed &&
    a.mode == b.mode

end LevelPlan

end LevelForge
