import LevelForge.Random.Key

/-!
# The state of a level

Where a level stands: how far it is built, how much it has handed out, how many templates of the
current round it has passed, and the keys of its three random streams. The streams are children of
one key, so that coins never disturb the choice of templates.

* `LevelState.draw`, `LevelState.drawMany`: take keys from one stream.
-/

namespace LevelForge

/-- The random streams of a level. -/
inductive Stream where
  -- the choice of templates and of gaps
  | selection
  | coins
  -- the start of the spawner's own stream
  | elements
  deriving DecidableEq, Repr, Inhabited

/-- Where a level stands. -/
structure LevelState where
  -- the rightmost column that is built
  frontier : Nat
  -- the total width of the segments handed out
  unitsBuilt : Nat
  -- the progress up to which boss rules have been consulted
  lastUnitsBuilt : Nat
  -- how many templates of the current round are behind, one more once the level has ended
  cursor : Nat
  -- the key of template and gap choices
  selection : Random.Key
  coins : Random.Key
  -- the key the spawner starts from
  elements : Random.Key
  deriving DecidableEq, Repr, Inhabited

namespace LevelState

/-- The state at the start of a level, its streams being the first three children of a key. -/
def start (key : Random.Key) : LevelState where
  frontier := 0
  unitsBuilt := 0
  lastUnitsBuilt := 0
  cursor := 0
  selection := key.child 0
  coins := key.child 1
  elements := key.child 2

/-- The key of a stream. -/
def key (s : LevelState) : Stream → Random.Key
  | .selection => s.selection
  | .coins => s.coins
  | .elements => s.elements

/-- The state with another key for a stream. -/
def setKey (s : LevelState) (stream : Stream) (key : Random.Key) : LevelState :=
  match stream with
  | .selection => { s with selection := key }
  | .coins => { s with coins := key }
  | .elements => { s with elements := key }

/-- Take a key from a stream. -/
def draw (s : LevelState) (stream : Stream) : LevelState × Random.Key :=
  let (rest, drawn) := (s.key stream).fork
  (s.setKey stream rest, drawn)

/-- Take `times` keys from a stream. -/
def drawMany (s : LevelState) (stream : Stream) : (times : Nat) → LevelState × List Random.Key
  | 0 => (s, [])
  | times + 1 =>
    let (s', drawn) := s.draw stream
    let (s'', others) := s'.drawMany stream times
    (s'', drawn :: others)

/-- The index of the template handed out last, `-1` before the first. -/
def index (s : LevelState) : Int := (s.cursor : Int) - 1

@[simp]
theorem key_setKey (s : LevelState) (stream other : Stream) (k : Random.Key) :
    (s.setKey stream k).key other = if other = stream then k else s.key other := by
  cases stream <;> cases other <;> rfl

end LevelState

end LevelForge
