import Holidays.Chronology.System

/-!
Conversion as it runs, in words of 64 bits, one operation after the other. Guarded operations
refuse what no word holds; at all others it is an overflow. Where none occurs, the exact conversions
say what comes out.
-/
namespace Holidays

inductive Stop where
  | refused (error : ChronologyError)
  | overflow (value : Int)
deriving DecidableEq

def inWords {α : Type} (outcome : Except ChronologyError α) : Except Stop α :=
  outcome.mapError .refused

def orRefuse {α : Type} (error : ChronologyError) : Option α → Except Stop α
  | none => .error (.refused error)
  | some a => .ok a

/-- What becomes of the exact result of an unguarded operation. A word that can hold it does. -/
structure WordArithmetic where
  keep : Int → Except Stop Int
  exact : ∀ n, Fits64 n → keep n = .ok n

namespace WordArithmetic

/-- A result that no word holds stops the program. -/
def checked : WordArithmetic where
  keep n := if Fits64 n then .ok n else .error (.overflow n)
  exact _ fits := if_pos fits

def layOut {β : Type} (a : WordArithmetic) (op : Int → Int → Int) (length : β → Except Stop Int)
    (start : Int) : List β → Except Stop Int
  | [] => .ok start
  | x :: xs => do
    let next ← a.keep (op start (← length x))
    a.layOut op length next xs

end WordArithmetic

def MonthTable.locateIn (a : WordArithmetic) (error : ChronologyError) (pivot start : Int) :
    List Nat → Except Stop (Nat × Nat)
  | [] => .error (.refused error)
  | length :: rest => do
    let next ← a.keep (start + length)
    if pivot < next then
      let passed ← a.keep (pivot - start)
      let day ← orRefuse error (natural32? (← a.keep (passed + 1)))
      return (1, day)
    else
      let (month, day) ← locateIn a error pivot next rest
      return (month + 1, day)

namespace Civil

def pivotOfIn (a : WordArithmetic) (d : Date) : Except Stop Int := a.keep (d.number + civilPivot)

def ofPivotIn (pivot : Int) : Except Stop SystemDate := do
  let outOfRange := ChronologyError.pivotOutOfRange CalendarSystem.civilId pivot
  let days ← orRefuse outOfRange (fit64? (pivot - civilPivot))
  let number ← orRefuse outOfRange (fit32? days)
  let d ← orRefuse outOfRange (Date.ofNumber? number)
  return .civil d

end Civil

namespace Julian

variable (a : WordArithmetic)

def marchBasedIn (year : Int) (month : Nat) : Except Stop (Int × Int) := do
  let early : Int := (14 - month) / 12
  let years ← a.keep ((← a.keep (year + 4800)) - early)
  let shifted ← a.keep (month + (← a.keep (12 * early)))
  let months ← a.keep (shifted - 3)
  return (years, months)

def pivotOfIn (date : Ymd) : Except Stop Int := do
  let (years, months) ← marchBasedIn a date.year date.month
  let monthDays ← a.keep ((← a.keep (153 * months)) + 2)
  let inYear ← a.keep (date.day + monthDays / 5)
  let withYears ← a.keep (inYear + (← a.keep (365 * years)))
  let withLeapDays ← a.keep (withYears + years / 4)
  a.keep (withLeapDays - 32083)

def dayInMonthIn (dayOfYear : Int) : Except Stop (Int × Int × Int) := do
  let fiveDays ← a.keep (5 * dayOfYear)
  let months := (← a.keep (fiveDays + 2)) / 153
  let monthDays ← a.keep (153 * months)
  let passed := (← a.keep (monthDays + 2)) / 5
  let day ← a.keep ((← a.keep (dayOfYear - passed)) + 1)
  let fromJanuary ← a.keep (months + 3)
  let month ← a.keep (fromJanuary - (← a.keep (12 * (months / 10))))
  return (months, month, day)

def ofPivotIn (pivot : Int) : Except Stop SystemDate := do
  let outOfRange := ChronologyError.pivotOutOfRange CalendarSystem.julianId pivot
  let days ← orRefuse outOfRange (days? pivot)
  let years := (4 * days + 3) / 1461
  -- The guards do not reach this far: the whole years can be too low to be multiplied back.
  let wholeYears := (← a.keep (1461 * years)) / 4
  let dayOfYear ← a.keep (days - wholeYears)
  let (months, month, day) ← dayInMonthIn a dayOfYear
  let year ← a.keep ((← a.keep (years - 4800)) + months / 10)
  let year ← orRefuse outOfRange (fit32? year)
  let month ← orRefuse outOfRange (natural32? month)
  let day ← orRefuse outOfRange (natural32? day)
  return ⟨CalendarSystem.julianId, ⟨year, month, day⟩⟩

end Julian

namespace Islamic

variable (a : WordArithmetic)

def yearStartIn (year : Int) : Except Stop Int := do
  let common ← a.keep ((← a.keep (year - 1)) * 354)
  let leapDays := (← a.keep (3 + (← a.keep (11 * year)))) / 30
  a.keep ((← a.keep (common + leapDays)) + epoch)

def pivotOfIn (date : Ymd) : Except Stop Int := do
  let halfMonths ← a.keep (59 * ((date.month : Int) - 1))
  let preceding := (← a.keep (halfMonths + 1)) / 2
  let placed ← a.keep ((← yearStartIn a date.year) + preceding)
  a.keep ((← a.keep (placed + date.day)) - 1)

variable (error : ChronologyError) (pivot : Int)

def retreatIn (year : Int) : Except Stop Int :=
  match yearStartIn a year with
  | .error stop => .error stop
  | .ok start =>
    if start ≤ pivot then .ok year
    else if _ : Fits32 (year - 1) then retreatIn (year - 1)
    else .error (.refused error)
termination_by (year + 2147483648).toNat
decreasing_by
  simp only [Fits32] at *
  omega

def advanceIn (year : Int) : Except Stop Int :=
  if _ : Fits32 (year + 1) then
    match yearStartIn a (year + 1) with
    | .error stop => .error stop
    | .ok next => if pivot < next then .ok year else advanceIn (year + 1)
  else .error (.refused error)
termination_by (2147483647 - year).toNat
decreasing_by
  simp only [Fits32] at *
  omega

def ofPivotIn : Except Stop SystemDate := do
  let outOfRange := ChronologyError.pivotOutOfRange CalendarSystem.islamicId pivot
  let guess ← orRefuse outOfRange (estimate? pivot)
  let begun ← retreatIn a outOfRange pivot guess
  let year ← advanceIn a outOfRange pivot begun
  let start ← yearStartIn a year
  let (month, day) ← MonthTable.locateIn a outOfRange pivot start (monthLengths year)
  return ⟨CalendarSystem.islamicId, ⟨year, month, day⟩⟩

end Islamic

namespace TableCalendar

variable (a : WordArithmetic) (c : TableCalendar)

def daysIn (lengths : List Nat) : Except Stop Int :=
  a.layOut (· + ·) (fun length : Nat => .ok (length : Int)) 0 lengths

def yearLengthIn (year : Int) : Except Stop Int := daysIn a (c.monthLengths year)

/-- The years between the epoch and a year are laid out one by one. -/
def yearStartIn (year : Int) : Except Stop Int :=
  if 1 ≤ year then a.layOut (· + ·) (c.yearLengthIn a) c.epoch (span 1 (year - 1))
  else a.layOut (· - ·) (c.yearLengthIn a) c.epoch (span year 0)

def pivotOfIn (date : Ymd) : Except Stop Int := do
  let preceding ← daysIn a ((c.monthLengths date.year).take (date.month - 1))
  let placed ← a.keep ((← c.yearStartIn a date.year) + preceding)
  a.keep ((← a.keep (placed + date.day)) - 1)

variable (pivot : Int)

def outOfRange : ChronologyError := .pivotOutOfRange c.id pivot

def forwardIn (year start : Int) : Except Stop (Int × Int) :=
  match do a.keep (start + (← c.yearLengthIn a year)) with
  | .error stop => .error stop
  | .ok next =>
    if pivot < next then .ok (year, start)
    else if _ : Fits32 (year + 1) then forwardIn (year + 1) next
    else .error (.refused (c.outOfRange pivot))
termination_by (2147483647 - year).toNat
decreasing_by
  simp only [Fits32] at *
  omega

def backIn (year start : Int) : Except Stop (Int × Int) :=
  if start ≤ pivot then .ok (year, start)
  else if _ : Fits32 (year - 1) then
    match do a.keep (start - (← c.yearLengthIn a (year - 1))) with
    | .error stop => .error stop
    | .ok earlier => backIn (year - 1) earlier
  else .error (.refused (c.outOfRange pivot))
termination_by (year + 2147483648).toNat
decreasing_by
  simp only [Fits32] at *
  omega

def yearOfIn : Except Stop (Int × Int) :=
  if c.epoch ≤ pivot then c.forwardIn a pivot 1 c.epoch else c.backIn a pivot 1 c.epoch

def ofPivotIn : Except Stop SystemDate := do
  let (year, start) ← c.yearOfIn a pivot
  let (month, day) ←
    MonthTable.locateIn a (c.outOfRange pivot) pivot start (c.monthLengths year)
  return ⟨c.id, ⟨year, month, day⟩⟩

end TableCalendar

namespace CalendarSystem

def toPivotIn (a : WordArithmetic) (s : CalendarSystem) (date : Ymd) : Except Stop Int :=
  let invalid := Stop.refused (.invalidDate s.id date.year date.month date.day)
  match s with
  | .gregorian =>
    match Date.ofYmd? date.year date.month date.day with
    | none => .error invalid
    | some d => Civil.pivotOfIn a d
  | .julian => if s.HasDay date then Julian.pivotOfIn a date else .error invalid
  | .islamic => if s.HasDay date then Islamic.pivotOfIn a date else .error invalid
  | .table c => if s.HasDay date then c.pivotOfIn a date else .error invalid

def ofPivotIn (a : WordArithmetic) : CalendarSystem → Int → Except Stop SystemDate
  | .gregorian, pivot => Civil.ofPivotIn pivot
  | .julian, pivot => Julian.ofPivotIn a pivot
  | .islamic, pivot => Islamic.ofPivotIn a pivot
  | .table c, pivot => c.ofPivotIn a pivot

end CalendarSystem

end Holidays
