import LineShell.Text.Layout

/-!
# Calendar and clock

The civil date and time of a moment: the Gregorian calendar without a beginning or an end, a
fixed offset from universal time, and a clock of twelve hours. Days are counted in cycles of 400
years, which all have the same 146097 days; inside a cycle a year begins on the first of March,
so that the leap day is its last.
-/

namespace LineShell.Calendar

/-! ### Dates -/

/-- A civil date. Years before year one are zero and negative. -/
structure Date where
  year : Int
  month : Nat
  day : Nat
deriving DecidableEq, Repr

def cycleDays : Int := 146097

/-- Days from the first of March of year zero to the first of January 1970. -/
def epochDay : Int := 719468

/-- The year of the cycle that holds a day of the cycle, counted from March. -/
def yearOfCycle (day : Nat) : Nat := (day - day / 1460 + day / 36524 - day / 146096) / 365

def daysBeforeYear (y : Nat) : Nat := 365 * y + y / 4 - y / 100

/-- The month of a day of a year, both counted from March. -/
def monthOfYear (day : Nat) : Nat := (5 * day + 2) / 153

/-- The days of a year before its month `m`, counted from March. -/
def daysBeforeMonth (m : Nat) : Nat := (153 * m + 2) / 5

/-- The date that is a number of days after the first of January 1970. -/
def Date.ofDays (days : Int) : Date :=
  let shifted := days + epochDay
  let cycle := shifted / cycleDays
  let dayOfCycle := (shifted % cycleDays).toNat
  let y := yearOfCycle dayOfCycle
  let dayOfYear := dayOfCycle - daysBeforeYear y
  let m := monthOfYear dayOfYear
  let month := if m < 10 then m + 3 else m - 9
  { year := cycle * 400 + y + (if month ≤ 2 then 1 else 0)
    month := month
    day := dayOfYear - daysBeforeMonth m + 1 }

/-! ### Moments -/

/-- A moment: seconds since the beginning of 1970 in universal time, the nanoseconds beyond them,
and the offset in seconds east of it in which the moment is shown. On the last second of a minute
a billion nanoseconds or more mean a leap second. -/
structure Moment where
  seconds : Int
  nanos : Nat
  offset : Int
deriving DecidableEq, Repr

namespace Moment

/-- The seconds that a clock at the moment's offset has counted. -/
def localSeconds (m : Moment) : Int := m.seconds + m.offset

def date (m : Moment) : Date := Date.ofDays (m.localSeconds / 86400)

def secondOfDay (m : Moment) : Nat := (m.localSeconds % 86400).toNat

def hour (m : Moment) : Nat := m.secondOfDay / 3600

def minute (m : Moment) : Nat := m.secondOfDay / 60 % 60

/-- The second of the minute; 60 is a leap second. -/
def second (m : Moment) : Nat := m.secondOfDay % 60 + m.nanos / 1_000_000_000

/-! ### The written form -/

/-- A year of four digits, or with a sign when it has more or is negative. -/
def yearText (year : Int) : String :=
  if year < 0 then "-" ++ Text.padZeros 4 year.natAbs
  else if year ≤ 9999 then Text.padZeros 4 year.toNat
  else "+" ++ toString year.toNat

/-- The hour on a clock of twelve hours; midnight and noon are twelve. -/
def clockHour (hour : Nat) : Nat := if hour % 12 = 0 then 12 else hour % 12

/-- The moment as month, day and year, and the time on a clock of twelve hours. -/
def text (m : Moment) : String :=
  let d := m.date
  toString d.month ++ "/" ++ toString d.day ++ "/" ++ yearText d.year ++ ", " ++
    toString (clockHour m.hour) ++ ":" ++ Text.padZeros 2 m.minute ++ ":" ++
    Text.padZeros 2 m.second ++ (if m.hour < 12 then " AM" else " PM")

end Moment

end LineShell.Calendar
