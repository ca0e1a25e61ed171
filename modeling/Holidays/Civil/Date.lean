import Holidays.Civil.Weekday
import Holidays.MonthTable
import Holidays.Width

/-!
Dates of the proleptic Gregorian calendar, years -262143 to 262142, held as a day number: day 1 is
0001-01-01. Year, month and day are views of the number; `ofYmd?` and the views invert each other.
-/
namespace Holidays.Civil

def firstYear : Int := -262143

def lastYear : Int := 262142

def isLeap (year : Int) : Bool := (year % 4 == 0 && year % 100 != 0) || year % 400 == 0

def monthLengths (leap : Bool) : List Nat :=
  [31, if leap then 29 else 28, 31, 30, 31, 30, 31, 31, 30, 31, 30, 31]

def yearStart (year : Int) : Int :=
  let past := year - 1
  365 * past + past / 4 - past / 100 + past / 400 + 1

/-- The year a day number falls in: a guess from the mean length of a year is at most one off. -/
def yearOf (number : Int) : Int :=
  let guess := (number - 1) * 400 / 146097 + 1
  if number < yearStart guess then guess - 1
  else if yearStart (guess + 1) ≤ number then guess + 1
  else guess

theorem yearStart_succ (year : Int) :
    yearStart (year + 1) = yearStart year + MonthTable.total (monthLengths (isLeap year)) := by
  have leap : isLeap year = true ↔ (year % 4 = 0 ∧ year % 100 ≠ 0) ∨ year % 400 = 0 := by
    simp [isLeap]
  cases h : isLeap year
  · rw [h] at leap
    simp only [Bool.false_eq_true, false_iff] at leap
    simp [yearStart, monthLengths]
    omega
  · rw [h] at leap
    simp only [true_iff] at leap
    simp [yearStart, monthLengths]
    omega

theorem yearOf_bounds (number : Int) :
    yearStart (yearOf number) ≤ number ∧ number < yearStart (yearOf number + 1) := by
  unfold yearOf
  dsimp only
  split
  · simp only [yearStart] at *
    omega
  · split
    · simp only [yearStart] at *
      omega
    · simp only [yearStart] at *
      omega

theorem yearStart_mono {y z : Int} (h : y ≤ z) : yearStart y ≤ yearStart z := by
  simp only [yearStart]
  omega

theorem yearOf_eq {year number : Int} (low : yearStart year ≤ number)
    (high : number < yearStart (year + 1)) : yearOf number = year := by
  have bounds := yearOf_bounds number
  by_cases below : yearOf number < year
  · have := yearStart_mono (y := yearOf number + 1) (z := year) (by omega)
    omega
  · by_cases above : year < yearOf number
    · have := yearStart_mono (y := year + 1) (z := yearOf number) (by omega)
      omega
    · omega

def monthDayOf (number : Int) : Nat × Nat :=
  let year := yearOf number
  (MonthTable.locate (monthLengths (isLeap year)) (number - yearStart year).toNat).getD (12, 31)

theorem locate_monthDayOf (number : Int) :
    MonthTable.locate (monthLengths (isLeap (yearOf number)))
      (number - yearStart (yearOf number)).toNat = some (monthDayOf number) := by
  have bounds := yearOf_bounds number
  have next := yearStart_succ (yearOf number)
  have within : (number - yearStart (yearOf number)).toNat <
      MonthTable.total (monthLengths (isLeap (yearOf number))) := by omega
  obtain ⟨month, day, found⟩ := MonthTable.locate_isSome within
  simp [monthDayOf, found]

def numberOf (year : Int) (month day : Nat) : Int :=
  yearStart year + MonthTable.daysBefore (monthLengths (isLeap year)) month + day - 1

def HasDay (year : Int) (month day : Nat) : Prop :=
  MonthTable.HasDay (monthLengths (isLeap year)) month day

instance (year : Int) (month day : Nat) : Decidable (HasDay year month day) :=
  inferInstanceAs (Decidable (MonthTable.HasDay _ _ _))

theorem hasDay_monthDayOf (number : Int) :
    HasDay (yearOf number) (monthDayOf number).1 (monthDayOf number).2 ∧
    numberOf (yearOf number) (monthDayOf number).1 (monthDayOf number).2 = number := by
  obtain ⟨has, total⟩ := MonthTable.hasDay_of_locate
    (show MonthTable.locate _ _ = some ((monthDayOf number).1, (monthDayOf number).2) from
      locate_monthDayOf number)
  have bounds := yearOf_bounds number
  refine ⟨has, ?_⟩
  simp only [numberOf]
  omega

theorem yearOf_numberOf {year : Int} {month day : Nat} (h : HasDay year month day) :
    yearOf (numberOf year month day) = year ∧
    monthDayOf (numberOf year month day) = (month, day) := by
  have within := MonthTable.daysBefore_add_le_total h
  have next := yearStart_succ year
  have low := h.1
  have same : yearOf (numberOf year month day) = year := by
    apply yearOf_eq <;> simp only [numberOf] <;> omega
  refine ⟨same, ?_⟩
  have passed : (numberOf year month day - yearStart year).toNat =
      MonthTable.daysBefore (monthLengths (isLeap year)) month + day - 1 := by
    simp only [numberOf]
    omega
  simp [monthDayOf, same, passed, MonthTable.locate_daysBefore h]

end Holidays.Civil

namespace Holidays

structure Date where
  number : Int
  notBefore : Civil.yearStart Civil.firstYear ≤ number
  notAfter : number < Civil.yearStart (Civil.lastYear + 1)
deriving DecidableEq, Repr

namespace Date

theorem ext_number {a b : Date} (h : a.number = b.number) : a = b := by
  cases a
  cases b
  simp_all

instance : LE Date := ⟨fun a b => a.number ≤ b.number⟩

instance : LT Date := ⟨fun a b => a.number < b.number⟩

instance (a b : Date) : Decidable (a ≤ b) := inferInstanceAs (Decidable (a.number ≤ b.number))

instance (a b : Date) : Decidable (a < b) := inferInstanceAs (Decidable (a.number < b.number))

def first : Date := ⟨Civil.yearStart Civil.firstYear, by decide, by decide⟩

def last : Date := ⟨Civil.yearStart (Civil.lastYear + 1) - 1, by decide, by decide⟩

def ofNumber? (number : Int) : Option Date :=
  if h : Civil.yearStart Civil.firstYear ≤ number ∧
      number < Civil.yearStart (Civil.lastYear + 1) then some ⟨number, h.1, h.2⟩
  else none

theorem ofNumber?_eq_some_iff {number : Int} {d : Date} :
    ofNumber? number = some d ↔ d.number = number := by
  unfold ofNumber?
  split
  · next h =>
    rw [Option.some.injEq]
    exact ⟨fun e => e ▸ rfl, fun e => ext_number e.symm⟩
  · next h =>
    constructor
    · intro e
      cases e
    · intro e
      exact absurd ⟨e ▸ d.notBefore, e ▸ d.notAfter⟩ h

def ofYmd? (year : Int) (month day : Nat) : Option Date :=
  if Civil.HasDay year month day then ofNumber? (Civil.numberOf year month day) else none

def year (d : Date) : Int := Civil.yearOf d.number

def month (d : Date) : Nat := (Civil.monthDayOf d.number).1

def day (d : Date) : Nat := (Civil.monthDayOf d.number).2

theorem ofYmd?_eq_some_iff {year : Int} {month day : Nat} {d : Date} :
    ofYmd? year month day = some d ↔ d.year = year ∧ d.month = month ∧ d.day = day := by
  constructor
  · intro h
    unfold ofYmd? at h
    split at h
    · next valid =>
      have views := Civil.yearOf_numberOf valid
      rw [ofNumber?_eq_some_iff] at h
      simp [Date.year, Date.month, Date.day, h, views]
    · cases h
  · rintro ⟨rfl, rfl, rfl⟩
    have parts : Civil.HasDay d.year d.month d.day ∧
        Civil.numberOf d.year d.month d.day = d.number := Civil.hasDay_monthDayOf d.number
    unfold ofYmd?
    rw [if_pos parts.1, ofNumber?_eq_some_iff]
    exact parts.2.symm

def weekday (d : Date) : Weekday := Weekday.ofMonday (d.number - 1)

def addDays? (d : Date) (n : Int) : Option Date := ofNumber? (d.number + n)

end Date

namespace Weekend

def covers (w : Weekend) (d : Date) : Bool := w.has d.weekday

end Weekend

end Holidays
