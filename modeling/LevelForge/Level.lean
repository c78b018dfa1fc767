import LevelForge.LevelPlan
import LevelForge.Level.State
import LevelForge.Spawner

/-!
# Levels

A level hands out segments one after the other: the spawn floor first, then the templates of its
blueprint in order or shuffled, each with its gap, boss arenas in between when the progress has
crossed a threshold, and at last the end wall, unless it starts over for ever. All its choices
follow from the seed.

* `Level.next`: the next segment.
* `Level.nextGap`: the width of the next gap.
-/

namespace LevelForge

/-- A level at some point of play. -/
structure Level where
  -- what the level is played from
  plan : LevelPlan
  state : LevelState

/-- The phases of a level. -/
inductive Phase where
  | notStarted
  | building
  | exhausted
  deriving DecidableEq, Repr, Inhabited

/-- The name of a phase. -/
def Phase.name : Phase → String
  | .notStarted => "NOT_STARTED"
  | .building => "BUILDING"
  | .exhausted => "EXHAUSTED"

namespace Level

/-- What keeps a level from handing out a segment. -/
inductive Fault where
  -- the blueprint has no template at the index
  | missingTemplate (index : Nat)
  -- a boss rule has no next threshold
  | bossRule (fault : Boss.ZeroInterval)
  -- the gap of the segment is refused
  | gap (fault : NegativeGap)
  -- there is no spawner to build with
  | noSpawner
  deriving DecidableEq, Repr

/-- The level of a plan, at its start. -/
def start (plan : LevelPlan) : Level := ⟨plan, .start (.ofSeed plan.seed)⟩

/-- The level at its start again. -/
def rewind (l : Level) : Level := start l.plan

/-- Whether a setting is switched on. -/
def has (l : Level) (setting : Setting) : Bool := l.plan.blueprint.has setting

/-- The number of templates. -/
def count (l : Level) : Nat := l.plan.blueprint.count

/-- Whether the level starts over when its templates run out. -/
def isEndless (l : Level) : Bool := l.has .infinite && decide (0 < l.count)

/-- Whether there is more to come: always in an endless level, and otherwise as long as the end
wall was not handed out. -/
def hasNext (l : Level) : Bool := l.isEndless || decide (l.state.cursor ≤ l.count)

/-- The phase of the level. -/
def phase (l : Level) : Phase :=
  if l.state.unitsBuilt = 0 then .notStarted
  else if l.hasNext then .building
  else .exhausted

/-- The place in the round of the template that is due, if any is. -/
def due? (l : Level) : Option Nat :=
  if l.state.cursor < l.count then some l.state.cursor
  else if l.isEndless then some 0
  else none

/-- Progress as boss rules count it: the units behind the spawn floor. -/
def progress (units : Nat) : Int := (units : Int) - World.spawnFloorWidth

/-- The width of the next gap: one or two tiles when gaps are switched on, and otherwise none. -/
def nextGap (l : Level) : Nat × Level :=
  if l.has .doGaps then
    let (state, key) := l.state.draw .selection
    (1 + key.below 2, { l with state })
  else (0, l)

/-- The index of the template that is handed out when the one at `place` is due. -/
def nextIndex (l : Level) (place : Nat) : Nat × Level :=
  if l.has .shuffle then
    let (state, key) := l.state.draw .selection
    (key.below l.count, { l with state })
  else (place, l)

/-- Hand out the spawn floor. -/
def handOutFloor (l : Level) : Segment × Level :=
  let floor := Segment.spawnFloor l.plan.blueprint.aliases
  let units := floor.template.width
  (floor, { l with state := { l.state with unitsBuilt := units, lastUnitsBuilt := units } })

/-- Hand out the end wall. -/
def handOutEnd (l : Level) : Segment × Level :=
  let wall := Segment.endWall l.plan.blueprint.aliases
  let units := l.state.unitsBuilt + wall.template.width
  (wall, { l with state := { l.state with cursor := l.count + 1, unitsBuilt := units } })

/-- Hand out the arena of a boss. The template that is due stays due, and the next look at the
boss rules starts behind the arena. -/
def handOutArena (l : Level) (boss : String) : Segment × Level :=
  let arena := Segment.arena boss l.plan.blueprint.aliases
  let units := l.state.unitsBuilt + arena.totalWidth
  (arena, { l with state := { l.state with unitsBuilt := units, lastUnitsBuilt := units } })

/-- Hand out a template when the one at `place` is due. -/
def handOutTemplate (l : Level) (place : Nat) : Except Fault (Segment × Level) :=
  let (index, l₁) := l.nextIndex place
  match l.plan.blueprint.segment? index with
  | none => .error (.missingTemplate index)
  | some segment =>
    let (width, l₂) := l₁.nextGap
    match segment.withGap width with
    | .error fault => .error (.gap fault)
    | .ok segment =>
      .ok (segment,
        { l₂ with state :=
          { l₂.state with
            cursor := place + 1
            lastUnitsBuilt := l.state.unitsBuilt
            unitsBuilt := l.state.unitsBuilt + segment.totalWidth } })

/-- The next segment of the level, or nothing when all was handed out. -/
def next (l : Level) : Except Fault (Option Segment × Level) :=
  if l.state.unitsBuilt = 0 then
    let (floor, l') := l.handOutFloor
    .ok (some floor, l')
  else if !l.hasNext then .ok (none, l)
  else
    match l.due? with
    | none =>
      let (wall, l') := l.handOutEnd
      .ok (some wall, l')
    | some place =>
      match l.plan.blueprint.bosses.next? (progress l.state.lastUnitsBuilt)
          (progress l.state.unitsBuilt) with
      | .error fault => .error (.bossRule fault)
      | .ok (some rule) =>
        let (arena, l') := l.handOutArena rule.symbol
        .ok (some arena, l')
      | .ok none =>
        match l.handOutTemplate place with
        | .error fault => .error fault
        | .ok (segment, l') => .ok (some segment, l')

/-- The next segments, at most `limit` of them; fewer when the level ends. -/
def take (l : Level) : Nat → Except Fault (List Segment × Level)
  | 0 => .ok ([], l)
  | limit + 1 => do
    match ← l.next with
    | (none, l') => return ([], l')
    | (some segment, l') =>
      let (others, l'') ← l'.take limit
      return (segment :: others, l'')

/-- A level in one line. -/
def describe (l : Level) : String :=
  s!"Level(id={Text.quote l.plan.levelId}, phase={l.phase.name}, " ++
  s!"generated_until={l.state.frontier}, units_built={l.state.unitsBuilt})"

end Level

end LevelForge
