import Holidays.Generation.Expansion
import Holidays.Proofs.JulianEaster

namespace Holidays

theorem index_weekday (d : Date) : (d.weekday.index : Int) = (d.number - 1) % 7 :=
  Weekday.index_ofMonday _

theorem seekWeekday?_number {weekday : Weekday} {direction : Direction} {date found : Date}
    (h : seekWeekday? weekday direction date = some found) :
    found.number = date.number +
      direction.step * ((direction.step * (weekday.index - (date.number - 1))) % 7) := by
  fun_induction seekWeekday? weekday direction date with
  | case1 date reached =>
    cases h
    have index := index_weekday found
    rw [reached] at index
    cases direction <;> simp only [Direction.step] <;> omega
  | case2 => cases h
  | case3 date other next stepped ih =>
    have further := ih h
    rw [Date.addDays?_eq_some_iff] at stepped
    -- While the weekday is not reached, a step takes one from the days that are missing.
    have apart : (weekday.index : Int) ≠ (date.number - 1) % 7 := by
      rw [← index_weekday]
      exact fun same => other (Weekday.index_inj (by omega))
    have bound := Weekday.index_lt weekday
    cases direction <;> simp only [Direction.step] at * <;> omega

theorem weekdaySearch?_near {anchor found : Date} {offset : WeekdayOffset}
    (few : offset.nth.toNat ≤ 52) (h : weekdaySearch? anchor offset = some found) :
    anchor.number ≤ found.number + 365 ∧ found.number ≤ anchor.number + 365 := by
  obtain ⟨weekday, nth, direction⟩ := offset
  simp only [weekdaySearch?, Option.bind_eq_bind, Option.bind_eq_some_iff] at h
  obtain ⟨next, stepped, nearest, sought, moved⟩ := h
  have within := seekWeekday?_number sought
  rw [Date.addDays?_eq_some_iff] at stepped moved
  cases direction <;> simp only [Direction.step] at * <;> omega

/-- A day up to a week before the first of a month lies in that month's year, or in the year that
the first of January ends. -/
theorem year_of_monthEnd {year : Int} {month : Nat} {next : Date}
    (h : Date.ofYmd? year (month + 1) 1 = some next) (later : 1 ≤ month) :
    Civil.yearStart year + 28 ≤ next.number ∧ next.number ≤ Civil.yearStart (year + 1) := by
  obtain ⟨has, number⟩ := Date.number_of_ofYmd? h
  have within := MonthTable.daysBefore_add_le_total has
  have succ := Civil.yearStart_succ year
  have beforeDecember : month ≤ 11 := Nat.le_of_succ_le_succ has.month_bounds.2
  have january :
      28 ≤ MonthTable.daysBefore (Civil.monthLengths (Civil.isLeap year)) (month + 1) := by
    cases Civil.isLeap year <;> interval_cases month <;> decide
  simp only [Civil.numberOf] at number
  omega

theorem year_of_nthWeekdayOfMonth? {year : Int} {month : Nat} {weekday : Weekday} {nth : Int}
    {d : Date} (h : nthWeekdayOfMonth? year month weekday nth = some d) : d.year = year := by
  -- The last weekday of a month is sought back from the first of the next one.
  have back {next : Date} (low : Civil.yearStart year + 28 ≤ next.number)
      (high : next.number ≤ Civil.yearStart (year + 1))
      (sought : (do
        let last ← next.addDays? (-1)
        last.addDays? (-(((last.weekday.index : Int) - weekday.index) % 7))) = some d) :
      d.year = year := by
    simp only [Option.bind_eq_bind, Option.bind_eq_some_iff] at sought
    obtain ⟨last, closed, moved⟩ := sought
    rw [Date.addDays?_eq_some_iff] at closed moved
    apply Civil.yearOf_eq <;> omega
  unfold nthWeekdayOfMonth? at h
  split at h
  · obtain ⟨first, opened, rest⟩ := Option.bind_eq_some_iff.mp h
    split at rest
    · next december =>
      obtain ⟨next, found, sought⟩ := Option.bind_eq_some_iff.mp rest
      obtain ⟨-, number⟩ := Date.number_of_ofYmd? found
      have start : Civil.numberOf (year + 1) 1 1 = Civil.yearStart (year + 1) := by
        simp [Civil.numberOf, MonthTable.daysBefore]
      have long : Civil.yearStart year + 28 ≤ Civil.yearStart (year + 1) := by
        simp only [Civil.yearStart]
        omega
      exact back (by omega) (by omega) sought
    · obtain ⟨next, found, sought⟩ := Option.bind_eq_some_iff.mp rest
      have low := (Date.number_of_ofYmd? opened).1.month_bounds.1
      obtain ⟨low, high⟩ := year_of_monthEnd found low
      exact back low high sought
  · split at h
    · simp only [Option.bind_eq_bind, Option.bind_eq_some_iff] at h
      obtain ⟨first, -, found⟩ := h
      exact Date.year_of_ofYmd? found
    · cases h

theorem year_of_western? {year : Int} {d : Date} (h : Easter.western? year = some d) :
    d.year = year := Date.year_of_ofYmd? h

/-- Through the years around 0 to 9999 the Julian March and April lie in the civil year of the same
number. -/
theorem year_of_julianSpring {date : Ymd} {d : Date} (has : CalendarSystem.julian.HasDay date)
    (spring : date.month = 3 ∨ date.month = 4) (low : -10 ≤ date.year) (high : date.year ≤ 10010)
    (same : d.pivot = Julian.pivotOf date) : d.year = date.year := by
  have days := Julian.pivotOf_eq has
  have least := has.1
  obtain ⟨-, length, sized, most⟩ := has
  obtain ⟨year, month, day⟩ := date
  simp only [Date.pivot, civilPivot] at same
  simp only [CalendarSystem.monthLengths, Julian.monthLengths] at days sized
  simp only at *
  apply Civil.yearOf_eq
  all_goals
    cases Julian.isLeap year <;> rcases spring with rfl | rfl <;>
      simp [MonthTable.lengthOf?, Civil.monthLengths, MonthTable.daysBefore] at days sized <;>
      simp only [Civil.yearStart, Julian.yearStart] at * <;> omega

def easterOf (registry : Registry) (r : Reference) (year : Int) : Option Date :=
  (EasterFormula.ofTag? r.formula).bind fun formula => (formula.dateIn registry year).toOption.join

theorem year_of_easter {registry : Registry} (reachable : registry.Reachable) {r : Reference}
    {year : Int} {d : Date} (low : -10 ≤ year) (high : year ≤ 10010)
    (h : easterOf registry r year = some d) : d.year = year := by
  obtain ⟨formula, -, dated⟩ := Option.bind_eq_some_iff.mp h
  cases formula with
  | western => exact year_of_western? dated
  | orthodox =>
    rw [Easter.dateIn_orthodox reachable.get_civil reachable.get_julian] at dated
    have spring : (Easter.julianDay year).month = 3 ∨ (Easter.julianDay year).month = 4 :=
      (Easter.julian_bounds year).imp And.left And.left
    exact year_of_julianSpring (Easter.hasDay_julianDay year) spring low high
      (Date.ofPivot?_eq_some_iff.mp dated)

end Holidays
