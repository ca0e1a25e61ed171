import Holidays.Chronology.Registry
import Holidays.Proofs.Civil.Order
import Holidays.Proofs.Sequence
import Mathlib.Tactic.IntervalCases

/-!
Every calendar system lays its years end to end: a year starts at a pivot of its own, lasts as many
days as its month table says, and the pivot of a date is the start of its year and the days passed
since. Conversion from a pivot finds the one year that holds it, and the one date.
-/
namespace Holidays

namespace MonthTable

theorem total_append (xs ys : List Nat) : total (xs ++ ys) = total xs + total ys := by
  induction xs with
  | nil => simp
  | cons x xs ih => simp [ih, Nat.add_assoc]

theorem locate_eq_some_iff {lengths : List Nat} {start pivot : Int} {month day : Nat}
    (begun : start ≤ pivot) :
    locate lengths (pivot - start).toNat = some (month, day) ↔
      HasDay lengths month day ∧ pivot = start + daysBefore lengths month + day - 1 := by
  constructor
  · intro found
    obtain ⟨has, passed⟩ := hasDay_of_locate found
    exact ⟨has, by omega⟩
  · rintro ⟨has, same⟩
    have low := has.1
    have passed : (pivot - start).toNat = daysBefore lengths month + day - 1 := by omega
    rw [passed]
    exact locate_daysBefore has

theorem hasDay_iff_of_lengthOf? {lengths : List Nat} {lastDay : Nat → Nat}
    (lasts : ∀ month, 1 ≤ month → month ≤ lengths.length →
      lengthOf? lengths month = some (lastDay month)) {month day : Nat} :
    HasDay lengths month day ↔
      (1 ≤ month ∧ month ≤ lengths.length) ∧ 1 ≤ day ∧ day ≤ lastDay month := by
  constructor
  · intro has
    obtain ⟨low, high⟩ := has.month_bounds
    obtain ⟨first, length, sized, within⟩ := has
    rw [lasts month low high] at sized
    cases sized
    exact ⟨⟨low, high⟩, first, within⟩
  · rintro ⟨⟨low, high⟩, first, within⟩
    exact ⟨first, lastDay month, lasts month low high, within⟩

end MonthTable

namespace Julian

def yearStart (year : Int) : Int := 365 * year + (year - 1) / 4 + 1721059

theorem yearStart_succ (year : Int) :
    yearStart (year + 1) = yearStart year + MonthTable.total (monthLengths year) := by
  have leap : isLeap year = true ↔ year % 4 = 0 := by simp [isLeap]
  cases h : isLeap year
  · rw [h] at leap
    simp only [Bool.false_eq_true, false_iff] at leap
    simp [yearStart, monthLengths, Civil.monthLengths, h]
    omega
  · rw [h] at leap
    simp only [true_iff] at leap
    simp [yearStart, monthLengths, Civil.monthLengths, h]
    omega

/-- Thirty days have April, June, September and November. -/
def lastDay (year : Int) (month : Nat) : Nat :=
  if month = 2 then if year % 4 = 0 then 29 else 28
  else if month = 4 ∨ month = 6 ∨ month = 9 ∨ month = 11 then 30
  else 31

theorem hasDay_iff {year : Int} {month day : Nat} :
    MonthTable.HasDay (monthLengths year) month day ↔
      (1 ≤ month ∧ month ≤ 12) ∧ 1 ≤ day ∧ day ≤ lastDay year month := by
  apply MonthTable.hasDay_iff_of_lengthOf?
  intro month low high
  have twelve : (monthLengths year).length = 12 := rfl
  rw [twelve] at high
  interval_cases month <;>
    simp [MonthTable.lengthOf?, monthLengths, Civil.monthLengths, lastDay, isLeap]

theorem pivotOf_eq {date : Ymd}
    (h : MonthTable.HasDay (monthLengths date.year) date.month date.day) :
    pivotOf date = yearStart date.year +
      MonthTable.daysBefore (monthLengths date.year) date.month + date.day - 1 := by
  obtain ⟨low, high⟩ := h.month_bounds
  obtain ⟨year, month, day⟩ := date
  have leap : isLeap year = true ↔ year % 4 = 0 := by simp [isLeap]
  have twelve : (monthLengths year).length = 12 := rfl
  rw [twelve] at high
  simp only at low high
  cases leaps : isLeap year <;> rw [leaps] at leap <;>
    simp only [true_iff, Bool.false_eq_true, false_iff] at leap <;>
    interval_cases month <;>
    simp [pivotOf, marchBased, yearStart, monthLengths, Civil.monthLengths, MonthTable.daysBefore,
      leaps] <;> omega

/-- The year from March to March that a day falls in, and its place there. Only a year before a leap
day has 366 days. -/
theorem steps_dayOfYear (days : Int) :
    0 ≤ (steps days).dayOfYear ∧
    ((steps days).dayOfYear ≤ 364 ∨
      (steps days).dayOfYear = 365 ∧ (steps days).years % 4 = 3) ∧
    days = 365 * (steps days).years + (steps days).years / 4 + (steps days).dayOfYear := by
  simp only [steps]
  generalize years_eq : (4 * days + 3) / 1461 = years
  have split : 1461 * years / 4 = 365 * years + years / 4 := by omega
  have whole := Int.emod_add_mul_ediv years 4
  omega

/-- The steps invert the pivot: they name a day that exists, and the pivot of that day. -/
theorem steps_spec (days : Int) :
    MonthTable.HasDay (monthLengths (steps days).year) (steps days).month.toNat
      (steps days).day.toNat ∧
    pivotOf ⟨(steps days).year, (steps days).month.toNat, (steps days).day.toNat⟩ =
      days - 32082 := by
  obtain ⟨low, high, total⟩ := steps_dayOfYear days
  have months : (steps days).months = (5 * (steps days).dayOfYear + 2) / 153 := rfl
  have year : (steps days).year = (steps days).years - 4800 + (steps days).months / 10 := rfl
  have month : (steps days).month = (steps days).months + 3 - 12 * ((steps days).months / 10) := rfl
  have day : (steps days).day =
    (steps days).dayOfYear - (153 * (steps days).months + 2) / 5 + 1 := rfl
  generalize steps days = s at *
  have first : 0 ≤ s.months := by omega
  have last : s.months ≤ 11 := by omega
  rw [month, day, hasDay_iff]
  generalize s.months = k at *
  interval_cases k <;> simp [pivotOf, marchBased, lastDay] <;> omega

theorem ofPivot?_spec {pivot : Int} {date : Ymd} (h : ofPivot? pivot = some date) :
    MonthTable.HasDay (monthLengths date.year) date.month date.day ∧ pivotOf date = pivot := by
  simp only [ofPivot?, days?, Option.bind_eq_bind, Option.bind_eq_some_iff, Option.pure_def,
    Option.some.injEq, fit64?_eq_some_iff, fit32?_eq_some_iff] at h
  obtain ⟨days, ⟨counted, ⟨-, passed⟩, -, -, -, -, same⟩, year, ⟨-, named⟩, rfl⟩ := h
  subst named
  obtain ⟨has, pivots⟩ := steps_spec days
  exact ⟨has, by omega⟩

end Julian

namespace Islamic

theorem yearStart_succ (year : Int) :
    yearStart (year + 1) = yearStart year + MonthTable.total (monthLengths year) := by
  have leap : isLeap year = true ↔ (14 + 11 * year) % 30 < 11 := by simp [isLeap]
  have next : 3 + 11 * (year + 1) = 14 + 11 * year := by omega
  cases h : isLeap year <;> rw [h] at leap <;>
    simp only [true_iff, Bool.false_eq_true, false_iff] at leap <;>
    simp [yearStart, monthLengths, h, next] <;> omega

def lastDay (year : Int) (month : Nat) : Nat :=
  if month % 2 = 1 ∨ month = 12 ∧ isLeap year then 30 else 29

theorem hasDay_iff {year : Int} {month day : Nat} :
    MonthTable.HasDay (monthLengths year) month day ↔
      (1 ≤ month ∧ month ≤ 12) ∧ 1 ≤ day ∧ day ≤ lastDay year month := by
  apply MonthTable.hasDay_iff_of_lengthOf?
  intro month low high
  have twelve : (monthLengths year).length = 12 := rfl
  rw [twelve] at high
  interval_cases month <;> simp [MonthTable.lengthOf?, monthLengths, lastDay]

theorem pivotOf_eq {date : Ymd}
    (h : MonthTable.HasDay (monthLengths date.year) date.month date.day) :
    pivotOf date = yearStart date.year +
      MonthTable.daysBefore (monthLengths date.year) date.month + date.day - 1 := by
  obtain ⟨low, high⟩ := h.month_bounds
  obtain ⟨year, month, day⟩ := date
  have twelve : (monthLengths year).length = 12 := rfl
  rw [twelve] at high
  simp only at low high
  interval_cases month <;> simp [pivotOf, monthLengths, MonthTable.daysBefore]

theorem retreat?_spec {pivot year begun : Int} (h : retreat? pivot year = some begun) :
    yearStart begun ≤ pivot := by
  fun_induction retreat? pivot year with
  | case1 year reached => exact Option.some.inj h ▸ reached
  | case2 => cases h
  | case3 year _ _ _ ih => exact ih h

theorem advance?_spec {pivot year found : Int} (begun : yearStart year ≤ pivot)
    (h : advance? pivot year = some found) :
    yearStart found ≤ pivot ∧ pivot < yearStart (found + 1) := by
  fun_induction advance? pivot year with
  | case1 => cases h
  | case2 year _ _ inside => exact Option.some.inj h ▸ ⟨begun, inside⟩
  | case3 year _ _ past ih => exact ih (Int.not_lt.mp past) h

end Islamic

namespace TableCalendar

theorem yearStart_succ (c : TableCalendar) (year : Int) :
    c.yearStart (year + 1) = c.yearStart year + MonthTable.total (c.monthLengths year) := by
  have length : MonthTable.total (c.monthLengths year) = c.yearLength year := rfl
  rw [length]
  by_cases later : 1 ≤ year
  · have back : year - 1 + 1 = year := by omega
    simp only [yearStart, if_pos later, if_pos (show 1 ≤ year + 1 by omega), Int.add_sub_cancel]
    rw [span_append (show (1 : Int) ≤ year - 1 + 1 by omega) (by omega), back, span_self,
      List.map_append, MonthTable.total_append]
    simp
    omega
  · simp only [yearStart, if_neg later]
    rw [span_append (show year ≤ year + 1 by omega) (show year ≤ 0 by omega), span_self,
      List.map_append, MonthTable.total_append]
    by_cases epoch : 1 ≤ year + 1
    · have zero : year = 0 := by omega
      subst zero
      simp [span_eq_nil]
    · rw [if_neg epoch]
      simp
      omega

theorem forward?_spec {c : TableCalendar} {pivot year start found foundStart : Int}
    (starts : start = c.yearStart year) (begun : start ≤ pivot)
    (h : c.forward? pivot year start = some (found, foundStart)) :
    foundStart = c.yearStart found ∧ foundStart ≤ pivot ∧ pivot < c.yearStart (found + 1) := by
  fun_induction forward? c pivot year start with
  | case1 year start inside =>
    cases h
    exact ⟨starts, begun, by rw [yearStart_succ, ← starts]; exact inside⟩
  | case2 => cases h
  | case3 year start past _ _ ih =>
    exact ih (by rw [yearStart_succ, starts]; rfl) (Int.not_lt.mp past) h

theorem back?_spec {c : TableCalendar} {pivot year start found foundStart : Int}
    (starts : start = c.yearStart year) (before : pivot < c.yearStart (year + 1))
    (h : c.back? pivot year start = some (found, foundStart)) :
    foundStart = c.yearStart found ∧ foundStart ≤ pivot ∧ pivot < c.yearStart (found + 1) := by
  fun_induction back? c pivot year start with
  | case1 year start reached =>
    cases h
    exact ⟨starts, reached, before⟩
  | case2 => cases h
  | case3 year start early _ _ ih =>
    have step : c.yearStart year = c.yearStart (year - 1) + c.yearLength (year - 1) := by
      have := c.yearStart_succ (year - 1)
      rwa [Int.sub_add_cancel] at this
    refine ih (by omega) ?_ h
    rw [Int.sub_add_cancel]
    omega

theorem yearOf?_spec {c : TableCalendar} {pivot found foundStart : Int}
    (h : c.yearOf? pivot = some (found, foundStart)) :
    foundStart = c.yearStart found ∧ foundStart ≤ pivot ∧ pivot < c.yearStart (found + 1) := by
  have one : c.epoch = c.yearStart 1 := by simp [yearStart, span_eq_nil]
  unfold yearOf? at h
  split at h
  · next late => exact forward?_spec one late h
  · next early =>
    refine back?_spec one ?_ h
    have := c.yearStart_succ 1
    omega

end TableCalendar

theorem Date.ofPivot?_eq_some_iff {pivot : Int} {d : Date} :
    Date.ofPivot? pivot = some d ↔ d.pivot = pivot := by
  rw [Date.ofPivot?, Date.ofNumber?_eq_some_iff, Date.pivot]
  omega

theorem Date.ofPivot?_eq_none_iff {pivot : Int} :
    Date.ofPivot? pivot = none ↔ ¬ (Date.first.pivot ≤ pivot ∧ pivot ≤ Date.last.pivot) := by
  simp only [Date.ofPivot?, Date.ofNumber?, Date.pivot, Date.first, Date.last]
  split
  · simp only [reduceCtorEq, false_iff, Classical.not_not]
    omega
  · simp only [true_iff]
    omega

namespace CalendarSystem

def yearStart : CalendarSystem → Int → Int
  | .gregorian, year => Civil.yearStart year + civilPivot
  | .julian, year => Julian.yearStart year
  | .islamic, year => Islamic.yearStart year
  | .table c, year => c.yearStart year

theorem yearStart_succ (s : CalendarSystem) (year : Int) :
    s.yearStart (year + 1) = s.yearStart year + MonthTable.total (s.monthLengths year) := by
  cases s with
  | gregorian =>
    have := Civil.yearStart_succ year
    simp only [yearStart, monthLengths]
    omega
  | julian => exact Julian.yearStart_succ year
  | islamic => exact Islamic.yearStart_succ year
  | table c => exact c.yearStart_succ year

theorem yearStart_mono (s : CalendarSystem) {y z : Int} (h : y ≤ z) :
    s.yearStart y ≤ s.yearStart z := by
  induction z, h using Int.leInduction with
  | base => exact Int.le_refl _
  | succ z _ ih =>
    have := s.yearStart_succ z
    omega

theorem toPivot_eq {s : CalendarSystem} {date : Ymd} {pivot : Int}
    (h : s.toPivot date = .ok pivot) :
    s.HasDay date ∧ pivot = s.yearStart date.year +
      MonthTable.daysBefore (s.monthLengths date.year) date.month + date.day - 1 := by
  cases s with
  | gregorian =>
    simp only [toPivot] at h
    split at h
    · cases h
    · next d found =>
      cases h
      obtain ⟨has, number⟩ := Date.number_of_ofYmd? found
      refine ⟨has, ?_⟩
      simp only [Date.pivot, number, Civil.numberOf, yearStart, monthLengths]
      omega
  | julian =>
    simp only [toPivot] at h
    split at h
    · next has =>
      cases h
      exact ⟨has, Julian.pivotOf_eq has⟩
    · cases h
  | islamic =>
    simp only [toPivot] at h
    split at h
    · next has =>
      cases h
      exact ⟨has, Islamic.pivotOf_eq has⟩
    · cases h
  | table c =>
    simp only [toPivot] at h
    split at h
    · next has =>
      cases h
      exact ⟨has, rfl⟩
    · cases h

theorem toPivot_eq_error {s : CalendarSystem} {date : Ymd} {e : ChronologyError}
    (h : s.toPivot date = .error e) : e = .invalidDate s.id date.year date.month date.day := by
  cases s with
  | gregorian =>
    simp only [toPivot] at h
    split at h <;> cases h
    rfl
  | julian | islamic | table =>
    simp only [toPivot] at h
    split at h <;> cases h
    rfl

def InYear (s : CalendarSystem) (year pivot : Int) : Prop :=
  s.yearStart year ≤ pivot ∧ pivot < s.yearStart (year + 1)

theorem inYear_of_hasDay {s : CalendarSystem} {date : Ymd} (has : s.HasDay date) :
    s.InYear date.year (s.yearStart date.year +
      MonthTable.daysBefore (s.monthLengths date.year) date.month + date.day - 1) := by
  have within := MonthTable.daysBefore_add_le_total has
  have low := has.1
  have next := s.yearStart_succ date.year
  unfold InYear
  omega

theorem inYear_of_toPivot {s : CalendarSystem} {date : Ymd} {pivot : Int}
    (h : s.toPivot date = .ok pivot) : s.InYear date.year pivot := by
  obtain ⟨has, same⟩ := toPivot_eq h
  exact same ▸ inYear_of_hasDay has

theorem ofPivot?_spec {s : CalendarSystem} {date : Ymd} {pivot : Int}
    (h : s.ofPivot? pivot = some date) :
    s.HasDay date ∧ pivot = s.yearStart date.year +
      MonthTable.daysBefore (s.monthLengths date.year) date.month + date.day - 1 := by
  cases s with
  | gregorian =>
    obtain ⟨d, found, rfl⟩ := Option.map_eq_some_iff.mp h
    rw [Date.ofPivot?_eq_some_iff, Date.pivot] at found
    obtain ⟨has, number⟩ := Civil.hasDay_monthDayOf d.number
    refine ⟨has, ?_⟩
    simp only [Civil.numberOf] at number
    simp only [yearStart, monthLengths, Date.ymd, Date.year, Date.month, Date.day]
    omega
  | julian =>
    obtain ⟨has, same⟩ := Julian.ofPivot?_spec h
    exact ⟨has, same ▸ Julian.pivotOf_eq has⟩
  | islamic =>
    simp only [ofPivot?, Islamic.ofPivot?, Option.bind_eq_bind, Option.bind_eq_some_iff,
      Option.pure_def, Option.some.injEq, Prod.exists] at h
    obtain ⟨guess, -, begun, retreated, year, advanced, month, day, found, rfl⟩ := h
    have reached := Islamic.advance?_spec (Islamic.retreat?_spec retreated) advanced
    exact (MonthTable.locate_eq_some_iff reached.1).mp found
  | table c =>
    simp only [ofPivot?, TableCalendar.ofPivot?, Option.bind_eq_bind, Option.bind_eq_some_iff,
      Option.pure_def, Option.some.injEq, Prod.exists] at h
    obtain ⟨year, start, walked, month, day, found, rfl⟩ := h
    obtain ⟨rfl, begun, -⟩ := TableCalendar.yearOf?_spec walked
    exact (MonthTable.locate_eq_some_iff begun).mp found

theorem inYear_of_ofPivot? {s : CalendarSystem} {date : Ymd} {pivot : Int}
    (h : s.ofPivot? pivot = some date) : s.InYear date.year pivot := by
  obtain ⟨has, same⟩ := ofPivot?_spec h
  exact same ▸ inYear_of_hasDay has

theorem InYear.mono {s : CalendarSystem} {y z p q : Int} (hy : s.InYear y p) (hz : s.InYear z q)
    (h : p ≤ q) : y ≤ z := by
  by_cases later : z + 1 ≤ y
  · have := s.yearStart_mono later
    have := hy.1
    have := hz.2
    omega
  · omega

end CalendarSystem

end Holidays
