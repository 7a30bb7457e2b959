import MutationTesting.Number.Decimal

/-!
# Dates and times

Points of time as a settings file can give them: a day, a time of day, or both, with or without the
distance from universal time.
-/

namespace MutationTesting.Settings

/-- A day of the calendar that counts leap years in the same way for all years from 1 on. -/
structure CalendarDay where
  year : Nat
  month : Nat
  day : Nat
deriving DecidableEq, Repr

namespace CalendarDay

def isLeapYear (year : Nat) : Bool :=
  year % 4 == 0 && (year % 100 != 0 || year % 400 == 0)

def daysInMonth (year month : Nat) : Nat :=
  if month = 2 then (if isLeapYear year then 29 else 28)
  else if month = 4 ∨ month = 6 ∨ month = 9 ∨ month = 11 then 30
  else 31

/-- Whether there is such a day. -/
def isOnCalendar (d : CalendarDay) : Bool :=
  decide (1 ≤ d.year) && decide (1 ≤ d.month) && decide (d.month ≤ 12) && decide (1 ≤ d.day) &&
    decide (d.day ≤ daysInMonth d.year d.month)

end CalendarDay

structure TimeOfDay where
  hour : Nat
  minute : Nat
  second : Nat
  microsecond : Nat
deriving DecidableEq, Repr

/-- A point of time, in the forms that a settings file knows. -/
inductive Moment where
  | day (d : CalendarDay)
  | time (t : TimeOfDay)
  /-- A day and a time; `offset` is the distance from universal time in minutes, if it is known. -/
  | both (d : CalendarDay) (t : TimeOfDay) (offset : Option Int)
deriving DecidableEq, Repr

namespace Moment

/-- The name of the kind of a moment. -/
def kindName : Moment → String
  | day _ => "date"
  | time _ => "time"
  | both .. => "datetime"

/-- The full name of the kind of a moment. -/
def qualifiedKindName (m : Moment) : String := "datetime." ++ m.kindName

def joined (numbers : List Nat) : String :=
  String.intercalate ", " (numbers.map Decimal.ofNat)

def dayNumbers (d : CalendarDay) : List Nat := [d.year, d.month, d.day]

/-- The numbers of a time; those of its end that are zero are left out, down to the minute. -/
def timeNumbers (t : TimeOfDay) : List Nat :=
  if t.microsecond ≠ 0 then [t.hour, t.minute, t.second, t.microsecond]
  else if t.second ≠ 0 then [t.hour, t.minute, t.second]
  else [t.hour, t.minute]

/-- The distance from universal time, counted in days and in the seconds that are left. -/
def shownOffset (minutes : Int) : String :=
  if minutes = 0 then "datetime.timezone.utc"
  else
    let seconds := minutes * 60
    let days := seconds.fdiv 86400
    let rest := seconds.fmod 86400
    let shownDays := if days = 0 then [] else ["days=" ++ Decimal.ofInt days]
    let shownRest := if rest = 0 then [] else ["seconds=" ++ Decimal.ofInt rest]
    "datetime.timezone(datetime.timedelta(" ++
      String.intercalate ", " (shownDays ++ shownRest) ++ "))"

/-- The text that shows a moment. -/
def shown (m : Moment) : String :=
  let numbers := match m with
    | day d => joined (dayNumbers d)
    | time t => joined (timeNumbers t)
    | both d t none => joined (dayNumbers d ++ timeNumbers t)
    | both d t (some minutes) =>
      joined (dayNumbers d ++ timeNumbers t) ++ ", tzinfo=" ++ shownOffset minutes
  m.qualifiedKindName ++ "(" ++ numbers ++ ")"

end Moment

end MutationTesting.Settings
