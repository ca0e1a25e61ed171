import Holidays.Document.Rule

namespace Holidays

structure YearRange where
  first : Int32
  last : Option Int32
deriving DecidableEq, Repr

def YearRange.contains (r : YearRange) (year : Int) : Bool :=
  decide (r.first.toInt ≤ year) && r.last.all fun last => decide (year ≤ last.toInt)

/-- The years in which a source is active: within the bounds, and in one of the ranges if any are
given. -/
structure ActiveYears where
  first : Option Int32
  last : Option Int32
  ranges : List YearRange
deriving DecidableEq, Repr

def ActiveYears.contains (a : ActiveYears) (year : Int) : Bool :=
  (a.first.all fun first => decide (first.toInt ≤ year)) &&
  (a.last.all fun last => decide (year ≤ last.toInt)) &&
  (a.ranges.isEmpty || a.ranges.any (·.contains year))

structure EventSource where
  key : String
  name : String
  rule : Rule
  classification : Option Classification
  shiftable : Option Bool
  activeYears : Option ActiveYears
deriving DecidableEq

namespace EventSource

/-- Whether its weekend occurrences move; unless it says so itself, those of fixed days do. -/
def isShiftable (s : EventSource) : Bool := s.shiftable.getD s.rule.isFixedMonthDay

def isActiveIn (s : EventSource) (year : Int) : Bool := s.activeYears.all (·.contains year)

end EventSource

structure Reference where
  key : String
  formula : String
deriving DecidableEq, Repr

inductive Delta where
  | add (key : String) (date : Date) (name : Option String) (classification : Option Classification)
  | remove (key : String) (date : Date)
  | reclassify (key : String) (date : Date) (classification : Classification)
deriving DecidableEq

namespace Delta

def key : Delta → String
  | .add key _ _ _ => key
  | .remove key _ => key
  | .reclassify key _ _ => key

def date : Delta → Date
  | .add _ date _ _ => date
  | .remove _ date => date
  | .reclassify _ date _ => date

end Delta

end Holidays
