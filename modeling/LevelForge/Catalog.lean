import LevelForge.LevelPlan
import LevelForge.Checksum
import LevelForge.Day
import LevelForge.Text.Points

/-!
# Catalogs

A catalog holds level texts by id. Each text is compiled when it is asked for, and the blueprint
is kept until the text changes. A level whose text does not compile is unavailable and does not
disturb the others.

* `standardSeed`: the seed of an id.
* `Catalog.blueprint`: the blueprint of an id.
* `Catalog.load`: the plan of an id.
* `Catalog.groups`, `Catalog.successor`: the arcade groups, and the way through them.
-/

namespace LevelForge

/-- The seed of a level that configures none: the checksum of its id. An id that cannot be encoded
has none. -/
def standardSeed (levelId : Text.Points) : Except Text.Points.Unencodable Int :=
  levelId.encode.map fun bytes => (Checksum.ofBytes bytes.toList).toNat

/-- The seed of a level that configures none and whose id is a text of characters. -/
def textSeed (levelId : String) : Int := (Checksum.ofText levelId).toNat

/-- Level texts by id. -/
structure Catalog where
  texts : Table String
  compiled : Table Blueprint

namespace Catalog

/-- Why a level is unavailable. -/
inductive Reason where
  | unknown
  | broken (failure : Ldl.Failure)
  -- its configured seed is no number
  | badSeed (value : String)
  deriving DecidableEq, Repr

/-- A level that cannot be had. -/
structure Unavailable where
  levelId : String
  reason : Reason
  deriving DecidableEq, Repr

/-- What is said about the reason. -/
def Reason.message : Reason → String
  | .unknown => "unknown level id"
  | .broken failure => failure.message
  | .badSeed value => s!"invalid SEED {Text.quote value}"

/-- What is said about an unavailable level. -/
def Unavailable.message (u : Unavailable) : String :=
  s!"Level {Text.quote u.levelId} unavailable: {u.reason.message}"

/-- The catalog of the given texts. -/
def ofTexts (texts : Table String) : Catalog := ⟨texts, .empty⟩

/-- Add or replace the text of an id. -/
def add (c : Catalog) (levelId text : String) : Catalog :=
  ⟨c.texts.insert levelId text, c.compiled.erase levelId⟩

/-- All ids in ascending order. -/
def ids (c : Catalog) : List String :=
  c.texts.keys.mergeSort fun a b => decide (a ≤ b)

/-- The blueprint of an id, and the catalog that keeps it. -/
def blueprint (c : Catalog) (levelId : String) : Except Unavailable Blueprint × Catalog :=
  match c.compiled.get? levelId with
  | some b => (.ok b, c)
  | none =>
    match c.texts.get? levelId with
    | none => (.error ⟨levelId, .unknown⟩, c)
    | some text =>
      match Ldl.compile text (some levelId) with
      | .error failure => (.error ⟨levelId, .broken failure⟩, c)
      | .ok b => (.ok b, { c with compiled := c.compiled.insert levelId b })

/-- The seed that a blueprint configures for an id: its `SEED` setting, or the seed of the id. -/
def configuredSeed (levelId : String) (b : Blueprint) : Except Unavailable Int :=
  match b.setting? Setting.seed.key with
  | none => .ok (textSeed levelId)
  | some value =>
    match Text.readInt value with
    | none => .error ⟨levelId, .badSeed value⟩
    | some seed => .ok seed

/-- The plan of an id. Without a seed the configured one is taken, and without a mode the level
is played as infinite if it starts over and as arcade if not. -/
def load (c : Catalog) (levelId : String) (seed : Option Int := none)
    (mode : Option PlayMode := none) : Except Unavailable LevelPlan × Catalog :=
  let (found, c') := c.blueprint levelId
  let plan := do
    let blueprint ← found
    let seed ←
      match seed with
      | some seed => .ok seed
      | none => configuredSeed levelId blueprint
    let usual := if blueprint.has .infinite then PlayMode.infinite else PlayMode.arcade
    return { levelId, blueprint, seed, mode := mode.getD usual }
  (plan, c')

/-- The plan of an id as the level of a day. -/
def daily (c : Catalog) (levelId : String) (day : Day) : Except Unavailable LevelPlan × Catalog :=
  c.load levelId (some day.seed) (some .daily)

/-- The blueprints of those of the given ids that can be had, in order. -/
def blueprints (c : Catalog) : List String → List (String × Blueprint) × Catalog
  | [] => ([], c)
  | levelId :: rest =>
    match c.blueprint levelId with
    | (.error _, c') => c'.blueprints rest
    | (.ok b, c') =>
      let (others, c'') := c'.blueprints rest
      ((levelId, b) :: others, c'')

/-- The ids whose texts compile, in ascending order. -/
def available (c : Catalog) : List String × Catalog :=
  let (found, c') := c.blueprints c.ids
  (found.map Prod.fst, c')

/-- The arcade groups: every available id with a `GROUP` setting, under the value of the
setting. -/
def groups (c : Catalog) : Table (List String) × Catalog :=
  let (found, c') := c.blueprints c.ids
  let table := found.foldl (fun groups (entry : String × Blueprint) =>
    match entry.2.setting? Setting.group.key with
    | none => groups
    | some group => groups.insert group ((groups.get? group).getD [] ++ [entry.1])) .empty
  (table, c')

/-- What follows a text in a list. -/
def following (levelId : String) : List String → Option String
  | [] => none
  | first :: rest => if first = levelId then rest.head? else following levelId rest

/-- The id after that of a plan in its arcade group. -/
def successor (c : Catalog) (plan : LevelPlan) : Option String × Catalog :=
  if plan.mode ≠ .arcade then (none, c)
  else
    let (groups, c') := c.groups
    let members := do groups.get? (← plan.blueprint.setting? Setting.group.key)
    (following plan.levelId (members.getD []), c')

end Catalog

end LevelForge
