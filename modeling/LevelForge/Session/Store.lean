import LevelForge.Fault
import LevelForge.Level.Play

/-!
# The store of a session

A session works on named objects. Blueprints and spawners are shared: a plan refers to its
blueprint and a play to its spawner, so that a change through one name shows through all others.
All other objects belong to one name.

* `Store.play`: a play as its parts stand now.
* `Store.segment`: a segment with the aliases its blueprint has now.
-/

namespace LevelForge.Session

/-- A reference to a shared blueprint. -/
structure BlueprintRef where
  -- its place among the blueprints of the store
  slot : Nat
  deriving DecidableEq, Repr

/-- A reference to a shared spawner. -/
structure SpawnerRef where
  -- its place among the spawners of the store
  slot : Nat
  deriving DecidableEq, Repr

/-- A plan over a shared blueprint. -/
structure SharedPlan where
  levelId : String
  blueprint : BlueprintRef
  seed : Int
  mode : PlayMode

/-- A play of a shared plan with a shared spawner. -/
structure SharedPlay where
  plan : SharedPlan
  -- the spawner, if there is one
  spawner : Option SpawnerRef
  state : LevelState

/-- An object of a session. -/
inductive Object where
  | parser (parser : Ldl.Parser)
  | blueprint (ref : BlueprintRef)
  -- a boss schedule and the aliases of its bosses
  | schedule (schedule : Boss.Schedule) (aliases : Table String)
  -- a segment, and the blueprint its aliases come from if there is one
  | segment (segment : Segment) (source : Option BlueprintRef)
  | spawner (ref : SpawnerRef)
  | plan (plan : SharedPlan)
  | play (play : SharedPlay)
  | catalog (catalog : Catalog)
  -- the state of a level that does not exist
  | state (state : LevelState)

/-- All that a session knows. -/
structure Store where
  blueprints : Array Blueprint := #[]
  spawners : Array Spawner := #[]
  objects : Table Object := .empty

namespace Store

/-- A shared blueprint as it is now. -/
def blueprint (s : Store) (ref : BlueprintRef) : Blueprint := s.blueprints.getD ref.slot {}

/-- Change a shared blueprint. -/
def setBlueprint (s : Store) (ref : BlueprintRef) (b : Blueprint) : Store :=
  { s with blueprints := s.blueprints.setIfInBounds ref.slot b }

/-- Share a new blueprint. -/
def addBlueprint (s : Store) (b : Blueprint) : BlueprintRef × Store :=
  (⟨s.blueprints.size⟩, { s with blueprints := s.blueprints.push b })

/-- A shared spawner as it is now. -/
def spawner (s : Store) (ref : SpawnerRef) : Spawner := s.spawners.getD ref.slot .create

/-- Change a shared spawner. -/
def setSpawner (s : Store) (ref : SpawnerRef) (spawner : Spawner) : Store :=
  { s with spawners := s.spawners.setIfInBounds ref.slot spawner }

/-- Share a new spawner. -/
def addSpawner (s : Store) (spawner : Spawner) : SpawnerRef × Store :=
  (⟨s.spawners.size⟩, { s with spawners := s.spawners.push spawner })

/-- Give an object a name. -/
def name (s : Store) (name : String) (object : Object) : Store :=
  { s with objects := s.objects.insert name object }

/-- A plan as its blueprint is now. -/
def plan (s : Store) (p : SharedPlan) : LevelPlan :=
  { levelId := p.levelId, blueprint := s.blueprint p.blueprint, seed := p.seed, mode := p.mode }

/-- A play as its parts are now. -/
def play (s : Store) (p : SharedPlay) : Play :=
  ⟨⟨s.plan p.plan, p.state⟩, p.spawner.map s.spawner⟩

/-- Put what a play has become back into its parts. -/
def setPlay (s : Store) (name : String) (shared : SharedPlay) (play : Play) : Store :=
  let s := s.name name (.play { shared with state := play.level.state })
  match shared.spawner, play.spawner with
  | some ref, some spawner => s.setSpawner ref spawner
  | _, _ => s

/-- A segment with the aliases its blueprint has now. -/
def segment (s : Store) (segment : Segment) (source : Option BlueprintRef) : Segment :=
  match source with
  | none => segment
  | some ref => { segment with aliases := (s.blueprint ref).aliases }

end Store

end LevelForge.Session
