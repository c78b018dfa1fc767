/-!
# Days

A day of the Gregorian calendar, whose date in digits is the seed of the level of the day.
-/

namespace LevelForge

/-- Whether a year has a leap day. -/
def isLeapYear (year : Nat) : Bool :=
  year % 4 == 0 && (year % 100 != 0 || year % 400 == 0)

/-- The number of days of a month. -/
def daysInMonth (year month : Nat) : Nat :=
  match month with
  | 2 => if isLeapYear year then 29 else 28
  | 4 | 6 | 9 | 11 => 30
  | _ => 31

/-- A day of the calendar. -/
structure Day where
  -- the year, from 1 to 9999
  year : Nat
  -- the month, from 1 to 12
  month : Nat
  -- the day of the month, from 1
  day : Nat
  year_mem : 1 ≤ year ∧ year ≤ 9999
  month_mem : 1 ≤ month ∧ month ≤ 12
  day_mem : 1 ≤ day ∧ day ≤ daysInMonth year month
  deriving DecidableEq

namespace Day

/-- Why three numbers are no day. -/
inductive Fault where
  -- one of the numbers is beyond all calendars
  | overflow
  | year (year : Int)
  | month
  -- the month has no such day
  | day
  deriving DecidableEq, Repr

/-- What is said about three numbers that are no day. -/
def Fault.message : Fault → String
  | .overflow => "number too large for a calendar"
  | .year number => s!"year {number} is out of range"
  | .month => "month must be in 1..12"
  | .day => "day is out of range for month"

/-- Whether a number is a signed word of 32 bits. -/
def isWord (n : Int) : Bool := decide (-0x80000000 ≤ n) && decide (n < 0x80000000)

/-- The day of a year, a month and a day of the month, the first bad number being reported. -/
def ofParts (year month day : Int) : Except Fault Day :=
  if !(isWord year && isWord month && isWord day) then .error .overflow
  else if hy : 1 ≤ year ∧ year ≤ 9999 then
    if hm : 1 ≤ month ∧ month ≤ 12 then
      if hd : 1 ≤ day ∧ day.toNat ≤ daysInMonth year.toNat month.toNat then
        .ok
          { year := year.toNat, month := month.toNat, day := day.toNat
            year_mem := by omega
            month_mem := by omega
            day_mem := by omega }
      else .error .day
    else .error .month
  else .error (.year year)

/-- The seed of a day: its date as one number, year before month before day. -/
def seed (d : Day) : Int := (d.year * 10000 + d.month * 100 + d.day : Nat)

end Day

end LevelForge
