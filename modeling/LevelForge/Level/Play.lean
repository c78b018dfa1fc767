import LevelForge.Level.Generation
import LevelForge.Word64

/-!
# Plays

A play is a level together with the spawner that builds it, if there is one. Starting a play
restarts the spawner's group choices from the level's own seed, and so does starting it again:
whatever happened before, the same plan is played the same way.

* `Play.start`, `Play.rewind`: the start of a play.
* `Play.next`, `Play.handOut`, `Play.nextGap`: hand out segments or a gap without building them.
* `Play.generate`: build the level up to a column.
-/

namespace LevelForge

/-- A level and the spawner that builds it. -/
structure Play where
  level : Level
  spawner : Option Spawner

namespace Play

/-- The start of a play. The spawner goes on from the level's key for elements. -/
def start (plan : LevelPlan) (spawner : Option Spawner) : Play :=
  let level := Level.start plan
  ⟨level, spawner.map (·.reseed level.state.elements)⟩

/-- The play at its start again. -/
def rewind (p : Play) : Play := start p.level.plan p.spawner

/-- Hand out the next segment. -/
def next (p : Play) : Except Level.Fault (Option Segment × Play) := do
  let (segment, level) ← p.level.next
  return (segment, { p with level })

/-- A limit on the number of segments that is no count. -/
structure BadLimit where
  limit : Int
  deriving DecidableEq, Repr

/-- What is said about a bad limit. One that is no word is not read at all, which is marked by -1,
so -1 itself counts as not read. -/
def BadLimit.message (fault : BadLimit) : String :=
  let subject := if Word64.fits fault.limit && fault.limit != -1 then "Indices" else "Stop argument"
  s!"{subject} for islice() must be None or an integer: 0 <= x <= sys.maxsize."

/-- A limit on the number of segments: a word that is not below zero. -/
def limitOf (limit : Int) : Except BadLimit Nat :=
  if Word64.fits limit && decide (0 ≤ limit) then .ok limit.toNat else .error ⟨limit⟩

/-- Hand out the next segments, at most `limit` of them; fewer when the level ends. -/
def take (p : Play) (limit : Nat) : Except Level.Fault (List Segment × Play) := do
  let (segments, level) ← p.level.take limit
  return (segments, { p with level })

/-- Hand out `times` segments, or nothing where the level has ended. -/
def handOut (p : Play) : (times : Nat) → Except Level.Fault (List (Option Segment) × Play)
  | 0 => .ok ([], p)
  | times + 1 => do
    let (first, p') ← p.next
    let (others, p'') ← p'.handOut times
    return (first :: others, p'')

/-- Draw the width of the next gap. -/
def nextGap (p : Play) : Nat × Play :=
  let (width, level) := p.level.nextGap
  (width, { p with level })

/-- What a generation leaves behind. -/
structure Generated where
  play : Play
  -- the segments that were built, in order
  segments : List Segment
  warnings : List Warning

/-- Build the level until its frontier reaches `target` or the level ends. -/
def generate (p : Play) (target : Int) : Except Level.Fault Generated :=
  match p.spawner with
  | none => .error .noSpawner
  | some spawner => do
    let done ← p.level.generate spawner target
    return ⟨⟨done.level, some done.spawner⟩, done.segments.toList, done.warnings.toList⟩

end Play

end LevelForge
