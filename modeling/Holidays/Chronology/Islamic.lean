import Holidays.Chronology.Julian

/-!
The arithmetical Islamic calendar: months of 30 and 29 days in turn, and 11 leap years in 30 that
give the last month a day more. The year of a pivot is estimated from the mean year and then
corrected step by step.
-/
namespace Holidays.Islamic

def epoch : Int := 1948440

def isLeap (year : Int) : Bool := (14 + 11 * year) % 30 < 11

def monthLengths (year : Int) : List Nat :=
  [30, 29, 30, 29, 30, 29, 30, 29, 30, 29, 30, if isLeap year then 30 else 29]

def yearStart (year : Int) : Int := (year - 1) * 354 + (3 + 11 * year) / 30 + epoch

theorem yearStart_lt (year : Int) : yearStart year < yearStart (year + 1) := by
  simp only [yearStart]
  omega

def pivotOf (date : Ymd) : Int :=
  yearStart date.year + (59 * ((date.month : Int) - 1) + 1) / 2 + date.day - 1

/-- A cycle of 30 years has 10631 days. -/
def estimate? (pivot : Int) : Option Int := do
  let days ← fit64? (pivot - epoch)
  let scaled ← fit64? (30 * days)
  let shifted ← fit64? (scaled + 10646)
  fit32? (shifted / 10631)

def retreat? (pivot year : Int) : Option Int :=
  if yearStart year ≤ pivot then some year
  else
    match fit32? (year - 1) with
    | none => none
    | some _ => retreat? pivot (year - 1)
termination_by (yearStart year - pivot).toNat
decreasing_by
  have := yearStart_lt (year - 1)
  rw [Int.sub_add_cancel] at this
  omega

def advance? (pivot year : Int) : Option Int :=
  match fit32? (year + 1) with
  | none => none
  | some _ => if pivot < yearStart (year + 1) then some year else advance? pivot (year + 1)
termination_by (pivot - yearStart year).toNat
decreasing_by
  have := yearStart_lt year
  omega

def ofPivot? (pivot : Int) : Option Ymd := do
  let guess ← estimate? pivot
  let begun ← retreat? pivot guess
  let year ← advance? pivot begun
  let (month, day) ← MonthTable.locate (monthLengths year) (pivot - yearStart year).toNat
  return ⟨year, month, day⟩

end Holidays.Islamic
