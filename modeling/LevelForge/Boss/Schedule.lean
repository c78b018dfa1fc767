import LevelForge.Boss.Rule

/-!
# Boss schedules

The boss rules of one level in the order of its text. When several thresholds lie in an interval
of progress the lowest wins, and of equal ones the first in the text.

* `Schedule.insert`: add the rule of a key, unless the schedule is frozen.
* `Schedule.next?`: the rule whose threshold comes first inside an interval.
-/

namespace LevelForge.Boss

/-- The boss rules of a level. -/
structure Schedule where
  -- the rules in the order of the text
  rules : List Rule := []
  -- whether the schedule takes no more rules
  frozen : Bool := false
  deriving DecidableEq, Repr, Inhabited

/-- Why a schedule does not take a rule. -/
inductive ScheduleFault where
  | frozen
  | key (fault : KeyFault)
  deriving DecidableEq, Repr

/-- What is said about a rule that is not taken. -/
def ScheduleFault.message : ScheduleFault → String
  | .frozen => "boss rules are frozen"
  | .key fault => fault.message

namespace Schedule

/-- The schedule without rules. -/
def empty : Schedule := {}

/-- Add the rule of a key and a boss symbol at the end. -/
def insert (s : Schedule) (key symbol : String) : Except ScheduleFault Schedule :=
  if s.frozen then .error .frozen
  else
    match Rule.ofKey key symbol with
    | .error fault => .error (.key fault)
    | .ok rule => .ok { s with rules := s.rules ++ [rule] }

/-- The schedule that takes no more rules. -/
def freeze (s : Schedule) : Schedule := { s with frozen := true }

/-- The better of two crossings: the later rule wins only with a lower threshold. -/
def better (best : Option (Int × Rule)) (rule : Rule) : Option Int → Option (Int × Rule)
  | none => best
  | some crossing =>
    match best with
    | none => some (crossing, rule)
    | some (least, _) => if crossing < least then some (crossing, rule) else best

/-- The crossing that comes first inside an interval of progress, with its rule. -/
def firstCrossing (s : Schedule) (last units : Int) :
    Except ZeroInterval (Option (Int × Rule)) :=
  s.rules.foldlM (fun best rule => return better best rule (← rule.firstCrossing last units)) none

/-- The rule whose boss appears inside an interval of progress. -/
def next? (s : Schedule) (last units : Int) : Except ZeroInterval (Option Rule) :=
  return (← s.firstCrossing last units).map Prod.snd

end Schedule

end LevelForge.Boss
