import Holidays.Civil.Date

namespace Holidays

inductive Classification where
  | closed
  | earlyClose
  | notable
  | periodMarker
  | weekend
deriving DecidableEq, Repr

namespace Classification

def all : List Classification := [.closed, .earlyClose, .notable, .periodMarker, .weekend]

def text : Classification → String
  | .closed => "CLOSED"
  | .earlyClose => "EARLY_CLOSE"
  | .notable => "NOTABLE"
  | .periodMarker => "PERIOD_MARKER"
  | .weekend => "WEEKEND"

end Classification

inductive ShiftPolicy where
  | none
  | nearest
  | nextAvailable
deriving DecidableEq, Repr

namespace ShiftPolicy

def all : List ShiftPolicy := [.none, .nearest, .nextAvailable]

def text : ShiftPolicy → String
  | .none => "NONE"
  | .nearest => "NEAREST_WEEKDAY"
  | .nextAvailable => "NEXT_AVAILABLE_WEEKDAY"

end ShiftPolicy

structure NotedDate where
  date : Date
  comment : Option String
deriving DecidableEq

structure MonthDay where
  month : UInt32
  day : UInt32
deriving DecidableEq, Repr

inductive Direction where
  | before
  | after
deriving DecidableEq, Repr

namespace Direction

def all : List Direction := [.before, .after]

def text : Direction → String
  | .before => "before"
  | .after => "after"

def step : Direction → Int
  | .before => -1
  | .after => 1

end Direction

structure WeekdayOffset where
  weekday : Weekday
  nth : UInt32
  direction : Direction
deriving DecidableEq, Repr

inductive Rule where
  | explicitDates (dates : List NotedDate)
  | fixedMonthDay (month day : UInt32) (system : Option String)
  /-- The `nth` weekday of a civil month, the last one for -1. -/
  | nthWeekday (month : UInt32) (weekday : Weekday) (nth : Int32)
  /-- An offset from an anchor. A reference goes before a fixed anchor, and days before weekdays. -/
  | relative (reference : Option String) (anchor : Option MonthDay) (offsetDays : Option Int64)
      (weekdayOffset : Option WeekdayOffset)
deriving DecidableEq

namespace Rule

def typeName : Rule → String
  | .explicitDates _ => "explicit_dates"
  | .fixedMonthDay _ _ _ => "fixed_month_day"
  | .nthWeekday _ _ _ => "nth_weekday_of_month"
  | .relative _ _ _ _ => "relative_to_reference"

def system? : Rule → Option String
  | .fixedMonthDay _ _ system => system
  | _ => none

def isFixedMonthDay : Rule → Bool
  | .fixedMonthDay _ _ _ => true
  | _ => false

end Rule

end Holidays
