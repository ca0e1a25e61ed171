import Holidays.Easter
import Holidays.Proofs.Chronology.Agreement
import Mathlib.Order.Bounds.Defs

/-!
Easter Sunday of the Julian calendar. The full moon comes back after 19 years and the days of the
week after 28, so that two residues give the day; it exists in every year, and only where its pivot
is no civil date is there no civil Easter.
-/
namespace Holidays

namespace Registry

variable {r : Registry}

/-- Towards the civil calendar a Julian day that exists can only fall out of range. -/
theorem toCivil_julian (civil : r.get CalendarSystem.civilId = .ok .gregorian)
    (julian : r.get CalendarSystem.julianId = .ok .julian) {ymd : Ymd}
    (has : CalendarSystem.julian.HasDay ymd) :
    r.toCivil ⟨CalendarSystem.julianId, ymd⟩ =
      match Date.ofPivot? (Julian.pivotOf ymd) with
      | none => .error (.pivotOutOfRange CalendarSystem.civilId (Julian.pivotOf ymd))
      | some date => .ok date := by
  have other : (⟨CalendarSystem.julianId, ymd⟩ : SystemDate).toDate? = none := rfl
  have there : r.toPivot ⟨CalendarSystem.julianId, ymd⟩ = .ok (Julian.pivotOf ymd) := by
    simp [toPivot, julian, bind, Except.bind, CalendarSystem.toPivot, has]
  simp only [toCivil, other, there, ofPivot_civil civil, bind, Except.bind]
  cases Date.ofPivot? (Julian.pivotOf ymd) with
  | none => rfl
  | some date => simp only [toDate?_civil]

end Registry

namespace Easter

def julianMoonDelay (year : Int) : Int := (19 * (year % 19) + 15) % 30

def julianFullMoon (year : Int) : Int := Julian.pivotOf ⟨year, 3, 21⟩ + julianMoonDelay year

def julianSundayDelay (year : Int) : Int :=
  (2 * (year % 4) + 4 * (year % 7) - julianMoonDelay year + 34) % 7

def julianSunday (year : Int) : Int := 22 + julianMoonDelay year + julianSundayDelay year

def julianDay (year : Int) : Ymd := ⟨year, (julian year).1, (julian year).2⟩

theorem julianMoonDelay_bounds (year : Int) :
    0 ≤ julianMoonDelay year ∧ julianMoonDelay year ≤ 29 := by
  simp only [julianMoonDelay]
  omega

theorem julianSundayDelay_bounds (year : Int) :
    0 ≤ julianSundayDelay year ∧ julianSundayDelay year ≤ 6 := by
  simp only [julianSundayDelay]
  omega

theorem julianSunday_bounds (year : Int) :
    22 ≤ julianSunday year ∧ julianSunday year ≤ 56 := by
  have delay := julianSundayDelay_bounds year
  simp only [julianSunday, julianMoonDelay]
  omega

theorem julian_eq (year : Int) :
    julian year = if julianSunday year ≤ 31 then (3, (julianSunday year).toNat)
      else (4, (julianSunday year - 31).toNat) := by
  have bounds := julianSunday_bounds year
  have formula : julian year =
      (((julianSunday year + 92) / 31).toNat, ((julianSunday year + 92) % 31 + 1).toNat) := by
    simp only [julian, julianSunday, julianSundayDelay, julianMoonDelay]
    congr 3 <;> omega
  rw [formula]
  split
  · congr 1 <;> omega
  · congr 1 <;> omega

theorem julian_bounds (year : Int) :
    (julian year).1 = 3 ∧ 22 ≤ (julian year).2 ∧ (julian year).2 ≤ 31 ∨
      (julian year).1 = 4 ∧ 1 ≤ (julian year).2 ∧ (julian year).2 ≤ 25 := by
  have bounds := julianSunday_bounds year
  rw [julian_eq]
  split
  · exact .inl ⟨rfl, by simp only; omega, by simp only; omega⟩
  · exact .inr ⟨rfl, by simp only; omega, by simp only; omega⟩

theorem hasDay_julianDay (year : Int) : CalendarSystem.julian.HasDay (julianDay year) := by
  have inMonth := julian_bounds year
  rcases inMonth with ⟨month, least, most⟩ | ⟨month, least, most⟩ <;>
    cases leap : Julian.isLeap year <;>
      simp [CalendarSystem.HasDay, MonthTable.HasDay, CalendarSystem.monthLengths, julianDay,
        Julian.monthLengths, leap, Civil.monthLengths, month, MonthTable.lengthOf?] <;> omega

theorem pivotOf_julianDay (year : Int) :
    Julian.pivotOf (julianDay year) = julianFullMoon year + 1 + julianSundayDelay year := by
  have bounds := julianSunday_bounds year
  rw [julianDay, julian_eq, julianFullMoon]
  split <;> simp only [Julian.pivotOf, Julian.marchBased, julianSunday] at * <;> omega

theorem pivotOf_march (year : Int) :
    Julian.pivotOf ⟨year, 3, 21⟩ = 365 * year + year / 4 + 1721138 := by
  simp [Julian.pivotOf, Julian.marchBased]
  omega

theorem weekday_julianDay (year : Int) :
    weekdayOfPivot (Julian.pivotOf (julianDay year)) = .sun := by
  have delay : (julianSundayDelay year + julianMoonDelay year) % 7 =
      (2 * (year % 4) + 4 * (year % 7) + 34) % 7 := by
    simp only [julianSundayDelay]
    omega
  rw [weekdayOfPivot, Weekday.ofMonday_eq_iff, pivotOf_julianDay, julianFullMoon, pivotOf_march]
  simp only [Weekday.index]
  omega

theorem isLeast_julianDay (year : Int) :
    IsLeast {pivot : Int | julianFullMoon year < pivot ∧ weekdayOfPivot pivot = .sun}
      (Julian.pivotOf (julianDay year)) := by
  have placed := pivotOf_julianDay year
  have delay := julianSundayDelay_bounds year
  have named := weekday_julianDay year
  refine ⟨⟨by omega, named⟩, ?_⟩
  rintro pivot ⟨after, same⟩
  -- Two Sundays are whole weeks apart, and Easter is within a week of the full moon.
  rw [weekdayOfPivot, Weekday.ofMonday_eq_iff] at named same
  omega

theorem dateIn_orthodox {registry : Registry}
    (civil : registry.get CalendarSystem.civilId = .ok .gregorian)
    (julian : registry.get CalendarSystem.julianId = .ok .julian) (year : Int) :
    EasterFormula.orthodox.dateIn registry year =
      .ok (Date.ofPivot? (Julian.pivotOf (julianDay year))) := by
  have converted := registry.toCivil_julian civil julian (hasDay_julianDay year)
  simp only [EasterFormula.dateIn]
  rw [julianDay] at converted ⊢
  rw [converted]
  cases Date.ofPivot? (Julian.pivotOf ⟨year, (Easter.julian year).1, (Easter.julian year).2⟩) with
  | none => rfl
  | some date => rfl

/-- In every year the Julian Easter is the first Sunday after the full moon, from March 22 to
April 25, and its civil date is looked up without an error. -/
theorem julian_firstSunday (year : Int) :
    CalendarSystem.julian.HasDay (julianDay year) ∧
    ((julianDay year).month = 3 ∧ 22 ≤ (julianDay year).day ∨
      (julianDay year).month = 4 ∧ (julianDay year).day ≤ 25) ∧
    IsLeast {pivot : Int | julianFullMoon year < pivot ∧ weekdayOfPivot pivot = .sun}
      (Julian.pivotOf (julianDay year)) ∧
    ∀ registry : Registry, registry.get CalendarSystem.civilId = .ok .gregorian →
      registry.get CalendarSystem.julianId = .ok .julian →
      ∃ found, EasterFormula.orthodox.dateIn registry year = .ok found ∧
        (∀ date, found = some date →
          date.pivot = Julian.pivotOf (julianDay year) ∧ date.weekday = .sun) ∧
        (found = none ↔ ¬ (Date.first.pivot ≤ Julian.pivotOf (julianDay year) ∧
          Julian.pivotOf (julianDay year) ≤ Date.last.pivot)) := by
  refine ⟨hasDay_julianDay year, ?_, isLeast_julianDay year, ?_⟩
  · rcases julian_bounds year with ⟨month, least, -⟩ | ⟨month, -, most⟩
    · exact .inl ⟨month, least⟩
    · exact .inr ⟨month, most⟩
  · intro registry civil julian
    refine ⟨_, dateIn_orthodox civil julian year, ?_, Date.ofPivot?_eq_none_iff⟩
    intro date found
    have same : date.pivot = Julian.pivotOf (julianDay year) := Date.ofPivot?_eq_some_iff.mp found
    refine ⟨same, ?_⟩
    rw [Registry.weekday_eq_weekdayOfPivot, same]
    exact weekday_julianDay year

/-- In 2024 Easter fell on a date, and 262143 is past the last of them. -/
theorem julian_firstSunday_tenDays :
    (∃ date, EasterFormula.orthodox.dateIn (Registry.defaults.run Registry.someChanges) 2024 =
      .ok (some date) ∧ date.pivot = Julian.pivotOf ⟨2024, 4, 22⟩ ∧ date.weekday = .sun) ∧
    EasterFormula.orthodox.dateIn (Registry.defaults.run Registry.someChanges) 262143 =
      .ok none := by
  have reachable := Registry.Reachable.defaults.run Registry.someChanges
  constructor
  · obtain ⟨-, -, -, civilly⟩ := julian_firstSunday 2024
    obtain ⟨found, dated, placed, missing⟩ :=
      civilly _ reachable.get_civil reachable.get_julian
    cases found with
    | none => exact absurd (by decide) (missing.mp rfl)
    | some date => exact ⟨date, dated, placed date rfl⟩
  · obtain ⟨-, -, -, civilly⟩ := julian_firstSunday 262143
    obtain ⟨found, dated, -, missing⟩ := civilly _ reachable.get_civil reachable.get_julian
    rw [dated, missing.mpr (by decide)]

end Easter

end Holidays
