import Holidays.Civil.Date

/-!
The proleptic Julian calendar and its pivots. Years are counted from March on the way, so that the
leap day ends one: with 153 days in each five months, both directions are closed formulas.
-/
namespace Holidays

structure Ymd where
  year : Int
  month : Nat
  day : Nat
deriving DecidableEq, Repr

namespace Julian

def isLeap (year : Int) : Bool := year % 4 == 0

def monthLengths (year : Int) : List Nat := Civil.monthLengths (isLeap year)

/-- Years since March of -4800, and months since March. -/
def marchBased (year : Int) (month : Nat) : Int × Int :=
  let early : Int := (14 - month) / 12
  (year + 4800 - early, month + 12 * early - 3)

def pivotOf (date : Ymd) : Int :=
  let (years, months) := marchBased date.year date.month
  date.day + (153 * months + 2) / 5 + 365 * years + years / 4 - 32083

structure Steps where
  quarterDays : Int
  years : Int
  dayOfYear : Int
  months : Int
  year : Int
  month : Int
  day : Int
deriving DecidableEq, Repr

def steps (days : Int) : Steps :=
  let quarterDays := 4 * days + 3
  let years := quarterDays / 1461
  let dayOfYear := days - 1461 * years / 4
  let months := (5 * dayOfYear + 2) / 153
  { quarterDays, years, dayOfYear, months
    year := years - 4800 + months / 10
    month := months + 3 - 12 * (months / 10)
    day := dayOfYear - (153 * months + 2) / 5 + 1 }

/-- The days since March 1 of -4800, where four times as many can still be counted. -/
def days? (pivot : Int) : Option Int := do
  let days ← fit64? (pivot + 32082)
  let quarters ← fit64? (4 * days)
  let _ ← fit64? (quarters + 3)
  return days

def ofPivot? (pivot : Int) : Option Ymd := do
  let days ← days? pivot
  let s := steps days
  let year ← fit32? s.year
  return ⟨year, s.month.toNat, s.day.toNat⟩

end Julian

end Holidays
