import LevelForge.Session.Store
import LevelForge.Catalog.Directory

/-!
# Actions and replies

What a step of a session may ask for, and what it may be answered.
-/

namespace LevelForge.Session

/-- Which of the segments that every level brings along. -/
inductive BuiltIn where
  | floor
  | wall
  | arena (boss : String)
  deriving DecidableEq, Repr

/-- The built-in segment over the given aliases. -/
def BuiltIn.segment (aliases : Table String) : BuiltIn → Segment
  | .floor => .spawnFloor aliases
  | .wall => .endWall aliases
  | .arena boss => .arena boss aliases

/-- Where the blueprint of a plan comes from. -/
inductive PlanSource where
  -- it is compiled from a text
  | text (text : String)
  -- it is an object of the session
  | blueprint (name : Option String)
  deriving DecidableEq, Repr

/-- What a step asks for. -/
inductive Action where
  | newParser (text : String)
  -- read the text of a parser into a blueprint
  | parse (blueprint : Option String)
  | newBlueprint (name : Option String)
  | compile (text : String) (name : Option String)
  -- let a symbol stand for another one
  | setAlias (key value : String)
  | setSetting (key value : String)
  -- add a boss rule to a blueprint or a schedule
  | addBoss (key symbol : String)
  | addTemplate (rows : List (List Cell))
  -- freeze a blueprint or a schedule
  | freeze
  | dump
  | template (index : Int)
  | segment (index : Int)
  | setting (key : String) (otherwise : Option String)
  -- whether a setting is switched on
  | isSet (key : String)
  | resolveAlias (symbol : String)
  | describe
  | equal (other : Option String)
  | newSchedule (aliases : Table String)
  -- the arena of the boss that appears in an interval of progress
  | nextBoss (last units : Int)
  | schedule
  | newSegment (rows : List (List Cell)) (aliases : Table String) (kind : SegmentKind)
      (index : Option Int)
  | builtIn (which : BuiltIn) (aliases : Table String)
  -- set the gap of a segment
  | setGap (width : Int)
  | build (spawner : Option String) (x : Int) (coins : Bool) (seed : Option Int)
  | newSpawner (registry : Option (Table Maker)) (groups : Option (Table (List String)))
      (worldHeight : Int) (seed : Int) (record listen : Bool)
  | register (symbol : String) (maker : Maker)
  | registerGroup (group : String) (members : List String)
  | reseed (seed : Int)
  | clear
  | resolve (symbols : List String)
  | place (placement : Placement)
  | spawnerState
  -- show what the listener of a spawner has received
  | received
  | newPlan (source : PlanSource) (levelId : String) (seed : Int) (mode : PlayMode)
  | newLevel (plan spawner : Option String)
  -- hand out segments, or nothing where the level has ended
  | next (times : Nat)
  -- hand out segments until the level ends
  | iterate (limit : Int)
  -- build a level up to a column
  | generate (target : Int)
  -- the width of the next gap
  | gap
  | rewind
  | compare (other : Option String)
  | sort (names : List String)
  -- the id after a level in a catalog
  | nextLevel (catalog : Option String)
  | newCatalog (texts : Table String)
  | openDirectory (entries : List (String × Catalog.Entry))
  | addText (levelId text : String)
  | ids
  -- the ids that can be had
  | available
  | groups
  | catalogBlueprint (levelId : String)
  | load (levelId : String) (seed : Option Int) (mode : Option PlayMode)
  -- the plan of an id for a day
  | daily (levelId : String) (year month day : Int)
  -- the id after that of a plan
  | successor (plan : Option String)
  -- the state at the start of a level
  | newState (seed : Int) (key : Option Random.Key)
  | draw (stream : Stream) (times : Nat)

/-- The objects an action names. -/
def Action.mentions : Action → List String
  | .parse name | .equal name | .build name .. | .compare name | .nextLevel name
  | .successor name => name.toList
  | .newPlan (.blueprint name) .. => name.toList
  | .newLevel plan spawner => plan.toList ++ spawner.toList
  | .sort names => names
  | _ => []

/-- A step of a session. -/
structure Step where
  on : Option String
  -- the name for what it creates
  name : Option String
  action : Action

/-- How two levels compare by their ids. -/
structure Comparison where
  equal : Bool
  less : Bool
  deriving DecidableEq, Repr

/-- The answer to a step. -/
inductive Reply where
  | done
  | text (text : Option String)
  | texts (texts : List String)
  | truth (truth : Bool)
  | number (number : Nat)
  | blueprint (blueprint : Blueprint)
  | rows (rows : List (List Cell))
  -- a segment with its rows, or none
  | fullSegment (segment : Option Segment)
  | segment (segment : Segment)
  -- segments, or nothing where the level has ended
  | segments (segments : List (Option Segment))
  | schedule (schedule : Boss.Schedule)
  -- how far a segment reaches, and the elements it was built of
  | built (width : Nat) (elements : List Element)
  -- the key of a new spawner
  | spawnerKey (key : Random.Key)
  | element (element : Option Element)
  | elements (elements : List Element)
  | spawner (spawner : Spawner)
  | plan (plan : LevelPlan)
  | level (level : Level)
  | comparison (comparison : Comparison)
  | groups (groups : Table (List String))
  | state (state : LevelState)
  -- keys that were drawn, and the state afterwards
  | drawn (keys : List Random.Key) (state : LevelState)

end LevelForge.Session
