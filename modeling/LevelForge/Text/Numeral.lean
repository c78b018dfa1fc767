import LevelForge.Text.Blank
import LevelForge.Text.DecimalDigit

/-!
# Integer numerals

The two readings of digits that a level text needs. The number of a boss rule is a plain run of
decimal digits; a configured seed or a command line number is a whole numeral: blanks at the ends,
at most one sign, and single underscores allowed between digits. Digits of every script count, and
neither reading takes more than `maxDigits` of them.
-/

namespace LevelForge.Text

/-- The largest number of digits that is read; leading zeros count. -/
def maxDigits : Nat := 4300

/-- The number written by decimal digits, most significant first. -/
def digitsValue (digits : List Nat) : Nat :=
  digits.foldl (fun value digit => 10 * value + digit) 0

/-- The digits of a numeral in which single underscores may stand between digits; `none` unless
the text starts and ends with a digit. -/
def readDigits : List Char → Option (List Nat)
  | [] => none
  | [c] => (digitValue? c).map ([·])
  | c :: '_' :: rest => do
    let digit ← digitValue? c
    return digit :: (← readDigits rest)
  | c :: rest => do
    let digit ← digitValue? c
    return digit :: (← readDigits rest)

/-- The blanks that may surround a numeral: every blank but the four information separators. -/
def isNumeralBlank (c : Char) : Bool :=
  isBlank c && !(decide (0x1C ≤ c.toNat) && decide (c.toNat ≤ 0x1F))

/-- The value of a numeral without a sign, or `none` when it is malformed or too long. -/
def readMagnitude (text : List Char) : Option Nat := do
  let digits ← readDigits text
  if digits.length ≤ maxDigits then some (digitsValue digits) else none

/-- The value of a whole numeral, or `none` when it is malformed or too long. -/
def readInt (text : String) : Option Int :=
  match trim isNumeralBlank text.toList with
  | '-' :: rest => (readMagnitude rest).map fun n => -(n : Int)
  | '+' :: rest => (readMagnitude rest).map fun n => (n : Int)
  | rest => (readMagnitude rest).map fun n => (n : Int)

/-- Why a run of digits has no value. -/
structure TooManyDigits where
  -- how many digits the run has
  count : Nat
  deriving DecidableEq, Repr

/-- What is said about a run of digits that is too long. -/
def TooManyDigits.message (fault : TooManyDigits) : String :=
  s!"Exceeds the limit ({maxDigits} digits) for integer string conversion: value has " ++
  s!"{fault.count} digits; use sys.set_int_max_str_digits() to increase the limit"

/-- The value of a run of digits, or how many there are when there are too many. -/
def readNatural (digits : List Nat) : Except TooManyDigits Nat :=
  if digits.length ≤ maxDigits then .ok (digitsValue digits) else .error ⟨digits.length⟩

end LevelForge.Text
