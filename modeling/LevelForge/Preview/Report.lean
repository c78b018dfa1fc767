import LevelForge.Preview.Options
import LevelForge.Preview.Picture
import LevelForge.Catalog
import LevelForge.Level.Play

/-!
# The preview report

What the preview prints: the list of the levels of a catalog, or one level with its picture, its
counts and the level that follows it.

* `listing`: the segments that a level hands out up to a width.
* `levelReport`: the report on one level.
* `run`: the whole report.
-/

namespace LevelForge.Preview

/-- What the program leaves behind. -/
structure Report where
  exitCode : Nat := 0
  output : List String := []
  complaints : List String := []
  -- what was reported while the level was built
  warnings : List Warning := []
  deriving DecidableEq, Repr

/-- Why there is no report. -/
inductive Fault where
  -- the level cannot hand out a segment
  | level (fault : Level.Fault)
  -- there is no picture of the size
  | picture (fault : SizeFault)
  -- the list of segments has no end in sight
  | endlessListing
  -- an option is needed that was left without a value
  | missingArgument
  deriving DecidableEq, Repr

/-- The segments that a level hands out until it has built `width` units or has ended, and the level
afterwards; `none` when that takes more than `fuel` segments. -/
def listing (width : Int) :
    (fuel : Nat) → Level → Except Level.Fault (Option (List Segment × Level))
  | 0, _ => .ok none
  | fuel + 1, l => do
    match ← l.next with
    | (none, l') => return some ([], l')
    | (some segment, l') =>
      if width ≤ l'.state.unitsBuilt then return some ([segment], l')
      else return (← listing width fuel l').map fun (others, last) => (segment :: others, last)

/-- A text with spaces behind it up to a width. -/
def padRight (width : Nat) (text : String) : String :=
  text ++ String.ofList (List.replicate (width - text.length) ' ')

/-- The group that lists an id. -/
def groupOf? (groups : Table (List String)) (levelId : String) : Option String :=
  (groups.entries.find? fun entry => entry.2.contains levelId).map Prod.fst

/-- One line for every level: its id, its group and whether it can be had. -/
def levelList (c : Catalog) : List String :=
  let (groups, c') := c.groups
  let (available, _) := c'.available
  c.ids.map fun levelId =>
    let group := (groupOf? groups levelId).getD "-"
    let status := if available.contains levelId then "ok" else "unavailable"
    s!"  {padRight 24 levelId} {padRight 12 group} {status}"

/-- The report on a level, drawn where so many bytes of memory are left. If its segments are listed,
the level is rewound from where the list ended before it is built. -/
def levelReport (c : Catalog) (plan : LevelPlan) (width : Int) (structures : Bool)
    (memory fuel : Nat) : Except Fault Report := do
  let play := Play.start plan (some Spawner.create)
  let (listed, play) ←
    if structures then
      match ← (listing width fuel play.level).mapError .level with
      | none => .error .endlessListing
      | some (segments, level) =>
        pure (segments.map fun segment => s!"  {segment.describe}", { play with level }.rewind)
    else pure ([], play)
  let done ← (play.generate width).mapError .level
  let spawner := done.play.spawner.getD Spawner.create
  let elements := spawner.elements.toList.map Element.origin
  let frontier := done.play.level.state.frontier
  let picture ← (Picture.draw memory elements spawner.worldHeight (frontier + 1)).mapError .picture
  let (next, _) := c.successor plan
  let header := s!"{plan.levelId} ({plan.mode.name}, seed={plan.seed})"
  let counts := s!"{elements.length} elements, generated until x={frontier}, " ++
    s!"phase={done.play.level.phase.name}"
  let follower := next.toList.map fun levelId => "next level: " ++ levelId
  return { output := listed ++ [header, picture, counts] ++ follower,
           warnings := done.warnings }

/-- The plan that the options ask for. `none` stands for a plan with a seed that is missing: its
level can be had, but not played. -/
def planOf (c : Catalog) (today : Day) (o : Options) (levelId : String) :
    Except Catalog.Unavailable (Option LevelPlan) × Catalog :=
  if o.daily then
    let (found, c') := c.daily levelId today
    (found.map some, c')
  else
    match o.seed with
    | none =>
      let (found, c') := c.load levelId
      (found.map some, c')
    | some (.value seed) =>
      let (found, c') := c.load levelId (some seed)
      (found.map some, c')
    | some .missing =>
      let (found, c') := c.blueprint levelId
      (found.map fun _ => none, c')

/-- The report that the options ask for. The directory is needed first; the seed and the width are
needed only for a level that can be had. -/
def run (c : Catalog) (today : Day) (o : Options) (memory fuel : Nat) : Except Fault Report :=
  if o.levelsDirectory = some .missing then .error .missingArgument
  else
    match o.level with
    | none => .ok { output := levelList c }
    | some levelId =>
      let (found, c') := planOf c today o levelId
      match found, o.width with
      | .error unavailable, _ =>
        .ok { exitCode := 1, complaints := [s!"ERROR: {unavailable.message}"] }
      | .ok (some plan), .value width => levelReport c' plan width o.structures memory fuel
      | .ok _, _ => .error .missingArgument

end LevelForge.Preview
