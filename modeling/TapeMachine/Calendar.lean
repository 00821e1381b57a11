/-!
# Dates and times of day

A moment is a time of day on a date of the calendar.  It may say how far its clock is
ahead of universal time; moments that do can be compared across clocks, and are never
compared with those that do not.
-/

namespace TapeMachine
namespace Calendar

def isLeapYear (year : Nat) : Bool :=
  year % 4 == 0 && (year % 100 != 0 || year % 400 == 0)

def daysInMonth (year month : Nat) : Nat :=
  if month == 2 then (if isLeapYear year then 29 else 28)
  else if [4, 6, 9, 11].contains month then 30
  else 31

/-- Whether the calendar has a date.  Its years have four digits. -/
def hasDate (year month day : Nat) : Bool :=
  1 <= year && year <= 9999 && 1 <= month && month <= 12 && 1 <= day &&
    day <= daysInMonth year month

def daysBeforeYear (year : Nat) : Nat :=
  let y := year - 1
  365 * y + y / 4 - y / 100 + y / 400

def daysBeforeMonth (year month : Nat) : Nat :=
  (List.range (month - 1)).foldl (fun days m => days + daysInMonth year (m + 1)) 0

end Calendar

structure Moment where
  year : Nat
  month : Nat
  day : Nat
  hour : Nat := 0
  minute : Nat := 0
  second : Nat := 0
  micro : Nat := 0
  /-- The minutes by which the clock is ahead of universal time. -/
  offset : Option Int := none
  deriving DecidableEq, Repr

namespace Moment

/-- Whether there is such a moment; its clock is less than a day ahead or behind. -/
def isValid (m : Moment) : Bool :=
  Calendar.hasDate m.year m.month m.day && m.hour < 24 && m.minute < 60 && m.second < 60 &&
    m.micro < 1000000 && (m.offset.all fun o => -1440 < o && o < 1440)

/-- The microseconds from the start of the calendar, by the clock of the moment. -/
def ticks (m : Moment) : Nat :=
  let days := Calendar.daysBeforeYear m.year + Calendar.daysBeforeMonth m.year m.month + m.day
  (((days * 24 + m.hour) * 60 + m.minute) * 60 + m.second) * 1000000 + m.micro

def universalTicks (m : Moment) : Int :=
  (m.ticks : Int) - m.offset.getD 0 * 60000000

def hasOffset (m : Moment) : Bool :=
  m.offset.isSome

/-- Whether two moments are one: both name their offset, or none does. -/
def same (m m' : Moment) : Bool :=
  m.hasOffset == m'.hasOffset && m.universalTicks == m'.universalTicks

def writeOffset (o : Int) : String :=
  if o == 0 then "datetime.timezone.utc"
  else
    -- A negative offset is a negative number of days and a rest that is not.
    let days := o.fdiv 1440
    let seconds := o.fmod 1440 * 60
    let parts := (if days == 0 then [] else ["days=" ++ toString days]) ++
      (if seconds == 0 then [] else ["seconds=" ++ toString seconds])
    "datetime.timezone(datetime.timedelta(" ++ ", ".intercalate parts ++ "))"

def write (m : Moment) : String :=
  let time := if m.micro == 0 then
      if m.second == 0 then [m.hour, m.minute] else [m.hour, m.minute, m.second]
    else [m.hour, m.minute, m.second, m.micro]
  let offset := match m.offset with
    | some o => [", tzinfo=" ++ writeOffset o]
    | none => []
  "datetime.datetime(" ++ ", ".intercalate (([m.year, m.month, m.day] ++ time).map toString) ++
    "".intercalate offset ++ ")"

end Moment
end TapeMachine
