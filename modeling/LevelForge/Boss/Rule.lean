import LevelForge.Text.Numeral
import LevelForge.Text.Quoted

/-!
# Boss rules

A rule calls a boss when the progress of a level crosses a threshold: once, at the number of the
rule, or again and again, at every multiple of it. In a level text the key `AT30` or `30` stands
for the first kind and `EVERY50` for the second.

* `Rule.IsThreshold`: the thresholds of a rule.
* `Rule.firstCrossing`: the least threshold inside an interval of progress.
-/

namespace LevelForge.Boss

/-- A progress threshold and the boss it calls. -/
structure Rule where
  -- the threshold, or the interval between thresholds
  threshold : Int
  symbol : String
  -- whether every multiple of the threshold counts
  repeating : Bool := false
  deriving DecidableEq, Repr, Inhabited

/-- A repeating rule whose interval is zero has no next threshold. -/
structure ZeroInterval where
  deriving DecidableEq, Repr

/-- Why a rule key is rejected. -/
inductive KeyFault where
  -- the key is not of the form of a rule
  | unknown (key : String)
  -- the number of the key has too many digits
  | number (fault : Text.TooManyDigits)
  -- a repeating rule needs a positive interval
  | interval (threshold : Nat)
  deriving DecidableEq, Repr

/-- What is said about a rejected rule key. -/
def KeyFault.message : KeyFault → String
  | .unknown key => s!"unknown boss rule {Text.quote key}"
  | .number fault => fault.message
  | .interval threshold => s!"boss interval must be positive, got {threshold}"

namespace Rule

/-- The thresholds of a rule: its number, or every multiple of it. -/
def IsThreshold (rule : Rule) (t : Int) : Prop :=
  if rule.repeating then rule.threshold ∣ t else t = rule.threshold

/-- The least threshold above `last`, if the rule is repeating and its interval positive; a rule
for one threshold offers that one. -/
def nextThreshold (rule : Rule) (last : Int) : Except ZeroInterval Int :=
  if rule.repeating then
    if rule.threshold = 0 then .error {}
    else .ok ((last.fdiv rule.threshold + 1) * rule.threshold)
  else .ok rule.threshold

/-- The least threshold of the rule that is above `last` and not above `units`. -/
def firstCrossing (rule : Rule) (last units : Int) : Except ZeroInterval (Option Int) := do
  let crossing ← rule.nextThreshold last
  return if last < crossing ∧ crossing ≤ units then some crossing else none

/-- A rule key taken apart: whether it repeats, and the digits of its number. Letters count in
either case, and a plus sign may stand before the number. -/
def readKey (key : List Char) : Option (Bool × List Nat) :=
  let (repeating, rest) :=
    match key.map Char.toUpper with
    | 'A' :: 'T' :: rest => (false, rest)
    | 'E' :: 'V' :: 'E' :: 'R' :: 'Y' :: rest => (true, rest)
    | rest => (false, rest)
  let number :=
    match rest with
    | '+' :: rest => rest
    | rest => rest
  match number.mapM Text.digitValue? with
  | none | some [] => none
  | some digits => some (repeating, digits)

/-- The rule of a key and a boss symbol. -/
def ofKey (key symbol : String) : Except KeyFault Rule :=
  match readKey key.toList with
  | none => .error (.unknown key)
  | some (repeating, digits) =>
    match Text.readNatural digits with
    | .error fault => .error (.number fault)
    | .ok threshold =>
      if repeating && threshold == 0 then .error (.interval threshold)
      else .ok { threshold, symbol, repeating }

end Rule

end LevelForge.Boss
