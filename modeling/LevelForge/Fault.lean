import LevelForge.LevelFile
import LevelForge.Level.Play
import LevelForge.Catalog
import LevelForge.Preview.Picture

/-!
# Faults

Every cause for which an operation of the library gives no answer, with its wording. A fault
without wording is one that speaks for itself.
-/

namespace LevelForge

/-- Why an operation gives no answer. -/
inductive Fault where
  -- a text is not read to its end
  | text (failure : Ldl.Failure)
  | ragged (fault : Ragged)
  | refused (refusal : Blueprint.Refusal)
  -- a boss schedule does not take a rule
  | schedule (fault : Boss.ScheduleFault)
  -- a boss rule has no next threshold
  | zeroInterval (fault : Boss.ZeroInterval)
  -- a gap width is below zero
  | gap (fault : NegativeGap)
  -- a limit on the number of segments is no count
  | limit (fault : Play.BadLimit)
  -- there is no picture of a size
  | picture (fault : Preview.SizeFault)
  | day (fault : Day.Fault)
  | unavailable (fault : Catalog.Unavailable)
  | encoding (fault : LevelFile.BadEncoding)
  -- a level cannot hand out or build a segment
  | level (fault : Level.Fault)
  | noPlan
  -- there is no template at an index
  | noTemplate
  | unordered
  -- two states cannot be told apart field by field
  | incomparableStates
  | noObject
  -- an object is asked for what it cannot do
  | misuse
  deriving DecidableEq, Repr

/-- What is said about a level that cannot hand out or build a segment. -/
def Level.Fault.message? : Level.Fault → Option String
  | .missingTemplate _ => none
  | .bossRule _ => none
  | .gap fault => some fault.message
  | .noSpawner => some "Level.generate() needs an ElementFactory"

/-- What is said about a fault, if anything is. -/
def Fault.message? : Fault → Option String
  | .text failure => some failure.message
  | .ragged fault => some fault.message
  | .refused refusal => some refusal.message
  | .schedule fault => some fault.message
  | .zeroInterval _ => none
  | .gap fault => some fault.message
  | .limit fault => some fault.message
  | .picture fault => fault.message?
  | .day .overflow => none
  | .day fault => some fault.message
  | .unavailable fault => some fault.message
  | .encoding _ => none
  | .level fault => fault.message?
  | .noPlan => some "LevelDefinition invalid"
  | .noTemplate => none
  | .unordered => none
  | .incomparableStates =>
    some <| "The truth value of an array with more than one element is ambiguous. " ++
      "Use a.any() or a.all()"
  | .noObject => none
  | .misuse => none

end LevelForge
