import Holidays.Proofs.Chronology.YearWalk

namespace Holidays

namespace Julian

theorem days?_of_inYear {year pivot : Int} (fits : Fits32 year)
    (inside : CalendarSystem.julian.InYear year pivot) : days? pivot = some (pivot + 32082) := by
  obtain ⟨begun, before⟩ := inside
  simp only [CalendarSystem.yearStart, yearStart, Fits32] at fits begun before
  have counted : Fits64 (pivot + 32082) ∧ Fits64 (4 * (pivot + 32082)) ∧
      Fits64 (4 * (pivot + 32082) + 3) := by
    simp only [Fits64]
    omega
  simp [days?, fit64?, counted]

theorem ofPivot?_pivotOf {date : Ymd} (fits : Fits32 date.year)
    (has : CalendarSystem.julian.HasDay date) : ofPivot? (pivotOf date) = some date := by
  have there : CalendarSystem.julian.toPivot date = .ok (pivotOf date) := if_pos has
  have counted := days?_of_inYear fits (CalendarSystem.inYear_of_toPivot there)
  -- The steps back name some day with this pivot, and there is only one.
  obtain ⟨found, same⟩ := steps_spec (pivotOf date + 32082)
  simp only [ofPivot?, counted, Option.bind_eq_bind, Option.bind_some]
  generalize steps (pivotOf date + 32082) = s at found same
  rw [Int.add_sub_cancel] at same
  have again : CalendarSystem.julian.toPivot ⟨s.year, s.month.toNat, s.day.toNat⟩ =
      .ok (pivotOf date) := same ▸ if_pos found
  have itself := CalendarSystem.toPivot_inj again there
  have year : s.year = date.year := congrArg Ymd.year itself
  have named : fit32? s.year = some s.year := by
    rw [fit32?_eq_some_iff, year]
    exact ⟨fits, rfl⟩
  simp [named, itself]

end Julian

namespace Islamic

/-- Thirty times the start of a year is 10631 times the year and a constant, less 29 at most, so the
division gives the year of every pivot. -/
theorem inYear_estimate (pivot : Int) :
    CalendarSystem.islamic.InYear ((30 * (pivot - epoch) + 10646) / 10631) pivot := by
  simp only [CalendarSystem.InYear, CalendarSystem.yearStart, yearStart, epoch]
  omega

theorem estimate?_of_inYear {year pivot : Int} (fits : Fits32 year)
    (inside : CalendarSystem.islamic.InYear year pivot) : estimate? pivot = some year := by
  have guessed := (inYear_estimate pivot).unique inside
  obtain ⟨begun, before⟩ := inside
  have counted : Fits64 (pivot - epoch) ∧ Fits64 (30 * (pivot - epoch)) ∧
      Fits64 (30 * (pivot - epoch) + 10646) := by
    simp only [CalendarSystem.yearStart, yearStart, epoch, Fits32] at fits begun before
    simp only [Fits64, epoch]
    omega
  simp [estimate?, fit64?, fit32?, counted, guessed, fits]

theorem retreat?_of_begun {year pivot : Int} (begun : yearStart year ≤ pivot) :
    retreat? pivot year = some year := by
  rw [retreat?, if_pos begun]

theorem advance?_of_before {year pivot : Int} (next : Fits32 (year + 1))
    (before : pivot < yearStart (year + 1)) : advance? pivot year = some year := by
  rw [advance?, fit32?_eq_some_iff.mpr ⟨next, rfl⟩]
  exact if_pos before

theorem advance?_next_fits {year pivot found : Int} (h : advance? pivot year = some found) :
    Fits32 (found + 1) := by
  fun_induction advance? pivot year with
  | case1 => cases h
  | case2 year _ later inside => exact Option.some.inj h ▸ (fit32?_eq_some_iff.mp later).1
  | case3 year _ _ past ih => exact ih h

theorem estimate?_eq_some {year pivot : Int} (guessed : estimate? pivot = some year) :
    year = (30 * (pivot - epoch) + 10646) / 10631 := by
  simp only [estimate?, Option.bind_eq_bind, Option.bind_eq_some_iff, fit64?_eq_some_iff,
    fit32?_eq_some_iff] at guessed
  obtain ⟨days, ⟨-, rfl⟩, scaled, ⟨-, rfl⟩, shifted, ⟨-, rfl⟩, -, named⟩ := guessed
  exact named.symm

/-- The year that is estimated holds the pivot. Neither loop takes a step from there: the one back
ends with the year as it is, and the one on does so too, or refuses the year before any step where
the next one cannot be counted. What is left of the conversion is to find the day in the year. -/
theorem estimate?_exact {year pivot : Int} (guessed : estimate? pivot = some year) :
    year = (30 * (pivot - epoch) + 10646) / 10631 ∧
    (yearStart year ≤ pivot ∧ pivot < yearStart (year + 1)) ∧
    retreat? pivot year = some year ∧
    (advance? pivot year = if Fits32 (year + 1) then some year else none) ∧
    ofPivot? pivot =
      if Fits32 (year + 1) then
        (MonthTable.locate (monthLengths year) (pivot - yearStart year).toNat).map
          fun (month, day) => ⟨year, month, day⟩
      else none := by
  have exact := estimate?_eq_some guessed
  have inside : CalendarSystem.islamic.InYear year pivot := exact ▸ inYear_estimate pivot
  obtain ⟨begun, before⟩ : yearStart year ≤ pivot ∧ pivot < yearStart (year + 1) := inside
  have retreated := retreat?_of_begun begun
  have advanced : advance? pivot year = if Fits32 (year + 1) then some year else none := by
    split
    · next counted => exact advance?_of_before counted before
    · next uncounted => rw [advance?, fit32?, if_neg uncounted]
  refine ⟨exact, ⟨begun, before⟩, retreated, advanced, ?_⟩
  simp only [ofPivot?, guessed, retreated, advanced, Option.bind_eq_bind, Option.bind_some]
  split
  · exact Option.map_eq_bind.symm
  · rfl

/-- The first day of the last year that can be counted, which is estimated and then refused. -/
theorem estimate?_exact_lastYear :
    estimate? 760998569794 = some 2147483647 ∧
    (yearStart 2147483647 ≤ 760998569794 ∧ 760998569794 < yearStart 2147483648) ∧
    retreat? 760998569794 2147483647 = some 2147483647 ∧
    advance? 760998569794 2147483647 = none := by
  have guessed : estimate? 760998569794 = some 2147483647 := by decide
  obtain ⟨-, inside, retreated, advanced, -⟩ := estimate?_exact guessed
  exact ⟨guessed, inside, retreated, advanced⟩

theorem ofPivot?_pivotOf {date : Ymd} (fits : Fits32 date.year) (next : Fits32 (date.year + 1))
    (has : CalendarSystem.islamic.HasDay date) : ofPivot? (pivotOf date) = some date := by
  have there : CalendarSystem.islamic.toPivot date = .ok (pivotOf date) := if_pos has
  have inside := CalendarSystem.inYear_of_toPivot there
  have located : MonthTable.locate (monthLengths date.year)
      (pivotOf date - yearStart date.year).toNat = some (date.month, date.day) :=
    (MonthTable.locate_eq_some_iff inside.1).mpr ⟨has, pivotOf_eq has⟩
  simp [ofPivot?, estimate?_of_inYear fits inside, retreat?_of_begun inside.1,
    advance?_of_before next inside.2, located]

theorem next_fits_of_ofPivot? {pivot : Int} {date : Ymd} (h : ofPivot? pivot = some date) :
    Fits32 (date.year + 1) := by
  simp only [ofPivot?, Option.bind_eq_bind, Option.bind_eq_some_iff, Option.pure_def,
    Option.some.injEq, Prod.exists] at h
  obtain ⟨guess, -, begun, -, year, advanced, month, day, -, rfl⟩ := h
  exact advance?_next_fits advanced

end Islamic

namespace CalendarSystem

def HasYear : CalendarSystem → Int → Prop
  | .gregorian, year => Civil.firstYear ≤ year ∧ year ≤ Civil.lastYear
  | _, _ => True

theorem toPivot_of_hasDay {s : CalendarSystem} {date : Ymd} (year : s.HasYear date.year)
    (has : s.HasDay date) : ∃ pivot, s.toPivot date = .ok pivot := by
  cases s with
  | gregorian =>
    obtain ⟨d, named⟩ := Date.exists_ofYmd? year.1 year.2 has
    exact ⟨d.pivot, by rw [toPivot, named]⟩
  | julian => exact ⟨_, if_pos has⟩
  | islamic => exact ⟨_, if_pos has⟩
  | table c => exact ⟨_, if_pos has⟩

/-- The years that conversion from a pivot can name. The end of an Islamic year is told by the start
of the next one, which must be a year that can be counted too. -/
def Counts : CalendarSystem → Int → Prop
  | .gregorian, year => Civil.firstYear ≤ year ∧ year ≤ Civil.lastYear
  | .islamic, year => Fits32 year ∧ Fits32 (year + 1)
  | _, year => Fits32 year

theorem Counts.between {s : CalendarSystem} {low year high : Int} (hl : s.Counts low)
    (hh : s.Counts high) (above : low ≤ year) (below : year ≤ high) : s.Counts year := by
  cases s <;> simp only [Counts, Fits32] at * <;> omega

theorem counts_of_ofPivot? {s : CalendarSystem} {pivot : Int} {date : Ymd}
    (found : s.ofPivot? pivot = some date) : s.Counts date.year := by
  cases s with
  | gregorian =>
    obtain ⟨d, -, rfl⟩ := Option.map_eq_some_iff.mp found
    exact d.year_bounds
  | julian => exact fits_of_ofPivot? found
  | islamic => exact ⟨fits_of_ofPivot? found, Islamic.next_fits_of_ofPivot? found⟩
  | table c => exact fits_of_ofPivot? found

theorem ofPivot?_of_toPivot {s : CalendarSystem} {pivot : Int} {date : Ymd}
    (counts : s.Counts date.year) (there : s.toPivot date = .ok pivot) :
    s.ofPivot? pivot = some date := by
  have has := (toPivot_eq there).1
  cases s with
  | gregorian =>
    simp only [toPivot] at there
    split at there
    · cases there
    · next d named =>
      cases there
      obtain ⟨year, month, day⟩ := Date.ofYmd?_eq_some_iff.mp named
      apply Option.map_eq_some_iff.mpr
      refine ⟨d, Date.ofPivot?_eq_some_iff.mpr rfl, ?_⟩
      simp [Date.ymd, year, month, day]
  | julian =>
    rw [toPivot, if_pos has] at there
    cases there
    exact Julian.ofPivot?_pivotOf counts has
  | islamic =>
    rw [toPivot, if_pos has] at there
    cases there
    exact Islamic.ofPivot?_pivotOf counts.1 counts.2 has
  | table c =>
    rw [toPivot, if_pos has] at there
    cases there
    exact TableCalendar.ofPivot?_eq_some_iff.mpr ⟨counts, has, rfl⟩

theorem ofPivot?_eq_some_iff {s : CalendarSystem} {pivot : Int} {date : Ymd} :
    s.ofPivot? pivot = some date ↔ s.Counts date.year ∧ s.toPivot date = .ok pivot :=
  ⟨fun found => ⟨counts_of_ofPivot? found, toPivot_of_ofPivot? found⟩,
    fun ⟨counts, there⟩ => ofPivot?_of_toPivot counts there⟩

/-- Dates of every year that can be counted lead to a pivot and back, and pivots that have a date
lead to a day of the calendar and back. -/
theorem julian_roundTrip :
    (∀ date : Ymd, Fits32 date.year → julian.HasDay date →
      ∃ pivot, Fits64 pivot ∧ julian.toPivot date = .ok pivot ∧
        julian.ofPivot? pivot = some date) ∧
    ∀ pivot date, julian.ofPivot? pivot = some date →
      Fits32 date.year ∧ julian.HasDay date ∧
      ((1 ≤ date.month ∧ date.month ≤ 12) ∧
        1 ≤ date.day ∧ date.day ≤ Julian.lastDay date.year date.month) ∧
      julian.toPivot date = .ok pivot := by
  constructor
  · intro date fits has
    have there : julian.toPivot date = .ok (Julian.pivotOf date) := if_pos has
    obtain ⟨begun, before⟩ := inYear_of_toPivot there
    have narrow : Fits64 (Julian.pivotOf date) := by
      simp only [yearStart, Julian.yearStart, Fits32, Fits64] at *
      omega
    exact ⟨Julian.pivotOf date, narrow, there, ofPivot?_of_toPivot fits there⟩
  · intro pivot date found
    have there := toPivot_of_ofPivot? found
    have has := (toPivot_eq there).1
    exact ⟨counts_of_ofPivot? found, has, Julian.hasDay_iff.mp has, there⟩

theorem julian_roundTrip_firstLeapDay :
    julian.HasDay ⟨-2147483648, 2, 29⟩ ∧ Fits32 (-2147483648) ∧
    julian.ofPivot? (-784366681315) = some ⟨-2147483648, 2, 29⟩ ∧
    julian.toPivot ⟨-2147483648, 2, 29⟩ = .ok (-784366681315) := by
  have has : julian.HasDay ⟨-2147483648, 2, 29⟩ := by decide
  have known : julian.toPivot ⟨-2147483648, 2, 29⟩ = .ok (-784366681315) := by decide
  obtain ⟨pivot, -, there, back⟩ := julian_roundTrip.1 ⟨-2147483648, 2, 29⟩ (by decide) has
  rw [known] at there
  cases there
  exact ⟨has, by decide, back, (julian_roundTrip.2 _ _ back).2.2.2⟩

/-- The last year that can be counted is left out, since it has no next one that can. -/
theorem islamic_roundTrip :
    (∀ date : Ymd, Fits32 date.year → date.year < 2147483647 → islamic.HasDay date →
      ∃ pivot, Fits64 pivot ∧ islamic.toPivot date = .ok pivot ∧
        islamic.ofPivot? pivot = some date) ∧
    ∀ pivot date, islamic.ofPivot? pivot = some date →
      Fits32 date.year ∧ islamic.HasDay date ∧
      ((1 ≤ date.month ∧ date.month ≤ 12) ∧
        1 ≤ date.day ∧ date.day ≤ Islamic.lastDay date.year date.month) ∧
      islamic.toPivot date = .ok pivot := by
  constructor
  · intro date fits early has
    have there : islamic.toPivot date = .ok (Islamic.pivotOf date) := if_pos has
    obtain ⟨begun, before⟩ := inYear_of_toPivot there
    have narrow : Fits64 (Islamic.pivotOf date) := by
      simp only [yearStart, Islamic.yearStart, Islamic.epoch, Fits32, Fits64] at *
      omega
    have counts : islamic.Counts date.year := by
      simp only [Counts, Fits32] at *
      omega
    exact ⟨Islamic.pivotOf date, narrow, there, ofPivot?_of_toPivot counts there⟩
  · intro pivot date found
    have there := toPivot_of_ofPivot? found
    have has := (toPivot_eq there).1
    exact ⟨(counts_of_ofPivot? found).1, has, Islamic.hasDay_iff.mp has, there⟩

theorem islamic_roundTrip_leapDay :
    islamic.HasDay ⟨-1, 12, 30⟩ ∧ Fits32 (-1) ∧ islamic.ofPivot? 1948085 = some ⟨-1, 12, 30⟩ ∧
    islamic.toPivot ⟨-1, 12, 30⟩ = .ok 1948085 := by
  have has : islamic.HasDay ⟨-1, 12, 30⟩ := by decide
  have known : islamic.toPivot ⟨-1, 12, 30⟩ = .ok 1948085 := by decide
  obtain ⟨pivot, -, there, back⟩ :=
    islamic_roundTrip.1 ⟨-1, 12, 30⟩ (by decide) (by decide) has
  rw [known] at there
  cases there
  exact ⟨has, by decide, back, (islamic_roundTrip.2 _ _ back).2.2.2⟩

end CalendarSystem

end Holidays
