import Holidays.Easter
import Holidays.Proofs.Chronology.Pivot
import Mathlib.Order.Bounds.Defs

/-!
Easter Sunday by the moon. The Gregorian rule takes the age of the moon from the golden number and
the centuries, and from it the day of the full moon; the closed formula for the month and day of
Easter gives the first Sunday after that day.
-/
namespace Holidays

theorem Date.isLeast_of_week {n : Int} {d : Date} {weekday : Weekday} (later : n < d.number)
    (near : d.number ≤ n + 7) (named : d.weekday = weekday) :
    IsLeast {c : Date | n < c.number ∧ c.weekday = weekday} d := by
  refine ⟨⟨later, named⟩, ?_⟩
  rintro c ⟨after, same⟩
  rw [Date.weekday, Weekday.ofMonday_eq_iff] at named same
  show d.number ≤ c.number
  omega

namespace Easter

/-- The age of the moon at the start of the year, before the two exceptions. -/
def age (year : Int) : Int :=
  (11 * (year % 19) + 8 + (8 * (year / 100) + 13) / 25 - (year / 100 - year / 100 / 4)) % 30

/-- An age of 24 days is put off by one, and one of 25 in the later part of the cycle. -/
def epact (year : Int) : Int :=
  if age year = 24 ∨ age year = 25 ∧ 11 ≤ year % 19 then age year + 1 else age year

/-- The paschal full moon, not before March 21, as a day of March that may run on into April. -/
def fullMoon (year : Int) : Int :=
  if 21 ≤ 44 - epact year then 44 - epact year else 74 - epact year

def marchDay (year day : Int) : Int := Civil.numberOf year 3 1 + day - 1

def moonDelay (year : Int) : Int :=
  (19 * (year % 19) + year / 100 - year / 100 / 4 - (year / 100 - (year / 100 + 8) / 25 + 1) / 3
    + 15) % 30

def sundayDelay (year : Int) : Int :=
  (32 + 2 * (year / 100 % 4) + 2 * (year % 100 / 4) - moonDelay year - year % 100 % 4) % 7

def weeksEarly (year : Int) : Int :=
  (year % 19 + 11 * moonDelay year + 22 * sundayDelay year) / 451

def sunday (year : Int) : Int := 22 + moonDelay year + sundayDelay year - 7 * weeksEarly year

theorem moonShift_eq (century : Int) :
    (century - (century + 8) / 25 + 1) / 3 = (8 * century + 13) / 25 := by
  omega

theorem age_bounds (year : Int) : 0 ≤ age year ∧ age year ≤ 29 := by
  simp only [age]
  omega

theorem moonDelay_bounds (year : Int) : 0 ≤ moonDelay year ∧ moonDelay year ≤ 29 := by
  simp only [moonDelay]
  omega

/-- The younger the moon at the start of the year, the later it is full. -/
theorem moonDelay_eq (year : Int) :
    moonDelay year = if age year ≤ 23 then 23 - age year else 53 - age year := by
  have young := age_bounds year
  have delay := moonDelay_bounds year
  have sum : (moonDelay year + age year) % 30 = 23 := by
    -- The two centennial corrections differ in form; past `moonShift_eq` the sum is linear.
    simp only [moonDelay, age, moonShift_eq]
    omega
  split <;> omega

theorem sundayDelay_bounds (year : Int) : 0 ≤ sundayDelay year ∧ sundayDelay year ≤ 6 := by
  simp only [sundayDelay]
  omega

theorem fullMoon_eq (year : Int) :
    fullMoon year = if moonDelay year = 29 ∨ moonDelay year = 28 ∧ 11 ≤ year % 19
      then 20 + moonDelay year else 21 + moonDelay year := by
  have delay := moonDelay_eq year
  have young := age_bounds year
  simp only [fullMoon, epact]
  split at delay <;> split <;> split <;> split <;> omega

theorem weeksEarly_eq (year : Int) :
    weeksEarly year = if (moonDelay year = 29 ∨ moonDelay year = 28 ∧ 11 ≤ year % 19) ∧
      sundayDelay year = 6 then 1 else 0 := by
  have moon := moonDelay_bounds year
  have sunday := sundayDelay_bounds year
  simp only [weeksEarly]
  split <;> omega

theorem fullMoon_lt_sunday (year : Int) :
    fullMoon year < sunday year ∧ sunday year ≤ fullMoon year + 7 := by
  have bounds := sundayDelay_bounds year
  -- A full moon put back by a day comes on a Saturday where the formula takes a week back.
  rw [fullMoon_eq, sunday, weeksEarly_eq]
  split <;> split <;> omega

theorem sunday_bounds (year : Int) : 22 ≤ sunday year ∧ sunday year ≤ 56 := by
  have near := fullMoon_lt_sunday year
  have bounds := moonDelay_bounds year
  rw [fullMoon_eq] at near
  split at near <;> omega

theorem numberOf_march (year : Int) :
    Civil.numberOf year 3 1 = 365 * year + year / 4 - year / 100 + year / 400 - 305 := by
  have next := Civil.yearStart_succ year
  cases leap : Civil.isLeap year <;>
    simp [leap, Civil.numberOf, Civil.monthLengths, MonthTable.daysBefore] at next ⊢ <;>
    simp only [Civil.yearStart] at next ⊢ <;> omega

theorem sunday_weekday (year : Int) :
    Weekday.ofMonday (marchDay year (sunday year) - 1) = .sun := by
  have quarters : year / 4 = 25 * (year / 100) + year % 100 / 4 := by omega
  have centuries : year / 400 = year / 100 / 4 := by omega
  have delay : (sundayDelay year + moonDelay year + year % 100 % 4) % 7 =
      (32 + 2 * (year / 100 % 4) + 2 * (year % 100 / 4)) % 7 := by
    simp only [sundayDelay]
    omega
  rw [Weekday.ofMonday_eq_iff, marchDay, numberOf_march, sunday, quarters, centuries]
  simp only [Weekday.index]
  omega

theorem western_eq (year : Int) :
    western year = if sunday year ≤ 31 then (3, (sunday year).toNat)
      else (4, (sunday year - 31).toNat) := by
  have bounds := sunday_bounds year
  have formula : western year =
      (((sunday year + 92) / 31).toNat, ((sunday year + 92) % 31 + 1).toNat) := by
    simp only [western, sunday, weeksEarly, sundayDelay, moonDelay]
    congr 3 <;> omega
  rw [formula]
  split
  · congr 1 <;> omega
  · congr 1 <;> omega

theorem hasDay_western (year : Int) :
    Civil.HasDay year (western year).1 (western year).2 ∧
    Civil.numberOf year (western year).1 (western year).2 = marchDay year (sunday year) := by
  have bounds := sunday_bounds year
  rw [western_eq, marchDay]
  cases leap : Civil.isLeap year <;> split <;>
    simp [Civil.HasDay, MonthTable.HasDay, MonthTable.lengthOf?, Civil.numberOf,
      Civil.monthLengths, MonthTable.daysBefore, leap] <;> omega

/-- In every year that has dates Easter is the first Sunday after the full moon, from March 22 to
April 25; in other years there is none. -/
theorem western_firstSunday (year : Int) :
    (Civil.firstYear ≤ year ∧ year ≤ Civil.lastYear → ∃ d, western? year = some d ∧
      IsLeast {c : Date | marchDay year (fullMoon year) < c.number ∧ c.weekday = .sun} d ∧
      d.year = year ∧ (d.month = 3 ∧ 22 ≤ d.day ∨ d.month = 4 ∧ d.day ≤ 25)) ∧
    (¬ (Civil.firstYear ≤ year ∧ year ≤ Civil.lastYear) → western? year = none) := by
  constructor
  · rintro ⟨low, high⟩
    obtain ⟨has, number⟩ := hasDay_western year
    obtain ⟨d, found⟩ := Date.exists_ofYmd? low high has
    have placed : d.number = marchDay year (sunday year) :=
      (Date.number_of_ofYmd? found).2.trans number
    have near := fullMoon_lt_sunday year
    have named : d.weekday = .sun := by
      rw [Date.weekday, placed]
      exact sunday_weekday year
    obtain ⟨sameYear, sameMonth, sameDay⟩ := Date.ofYmd?_eq_some_iff.mp found
    refine ⟨d, found, Date.isLeast_of_week ?_ ?_ named, sameYear, ?_⟩
    · rw [placed, marchDay, marchDay]
      omega
    · rw [placed, marchDay, marchDay]
      omega
    · have bounds := sunday_bounds year
      rw [sameMonth, sameDay, western_eq]
      split
      · exact .inl ⟨rfl, by omega⟩
      · exact .inr ⟨rfl, by omega⟩
  · intro outside
    cases found : western? year with
    | none => rfl
    | some d =>
      have bounds := d.year_bounds
      rw [Date.year_of_ofYmd? found] at bounds
      exact absurd bounds outside

end Easter

end Holidays
