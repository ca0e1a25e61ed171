import Holidays.Proofs.Chronology.YearStart

namespace Holidays

theorem MonthTable.HasDay.eq_of_passed {lengths : List Nat} {month day month' day' : Nat}
    (h : HasDay lengths month day) (h' : HasDay lengths month' day')
    (same : daysBefore lengths month + day = daysBefore lengths month' + day') :
    month = month' ∧ day = day' := by
  have found := locate_daysBefore h
  rw [same, locate_daysBefore h'] at found
  exact Prod.mk.inj (Option.some.inj found.symm)

namespace Islamic

theorem estimate?_fits {pivot guess : Int} (h : estimate? pivot = some guess) : Fits32 guess := by
  simp only [estimate?, Option.bind_eq_bind, Option.bind_eq_some_iff] at h
  obtain ⟨days, _, scaled, _, shifted, _, named⟩ := h
  obtain ⟨fits, rfl⟩ := fit32?_eq_some_iff.mp named
  exact fits

theorem retreat?_fits {pivot year begun : Int} (fits : Fits32 year)
    (h : retreat? pivot year = some begun) : Fits32 begun := by
  fun_induction retreat? pivot year with
  | case1 year reached => exact Option.some.inj h ▸ fits
  | case2 => cases h
  | case3 year _ counted earlier ih =>
    exact ih (fit32?_eq_some_iff.mp earlier).1 h

theorem advance?_fits {pivot year found : Int} (fits : Fits32 year)
    (h : advance? pivot year = some found) : Fits32 found := by
  fun_induction advance? pivot year with
  | case1 => cases h
  | case2 year _ _ inside => exact Option.some.inj h ▸ fits
  | case3 year _ later past ih => exact ih (fit32?_eq_some_iff.mp later).1 h

end Islamic

namespace TableCalendar

theorem forward?_fits {c : TableCalendar} {pivot year start found foundStart : Int}
    (fits : Fits32 year) (h : c.forward? pivot year start = some (found, foundStart)) :
    Fits32 found := by
  fun_induction forward? c pivot year start with
  | case1 year start inside =>
    cases h
    exact fits
  | case2 => cases h
  | case3 year start past _ later ih => exact ih (fit32?_eq_some_iff.mp later).1 h

theorem back?_fits {c : TableCalendar} {pivot year start found foundStart : Int}
    (fits : Fits32 year) (h : c.back? pivot year start = some (found, foundStart)) :
    Fits32 found := by
  fun_induction back? c pivot year start with
  | case1 year start reached =>
    cases h
    exact fits
  | case2 => cases h
  | case3 year start early _ earlier ih => exact ih (fit32?_eq_some_iff.mp earlier).1 h

theorem yearOf?_fits {c : TableCalendar} {pivot found foundStart : Int}
    (h : c.yearOf? pivot = some (found, foundStart)) : Fits32 found := by
  have one : Fits32 1 := by decide
  unfold yearOf? at h
  split at h
  · exact forward?_fits one h
  · exact back?_fits one h

end TableCalendar

theorem Date.year_bounds (d : Date) : Civil.firstYear ≤ d.year ∧ d.year ≤ Civil.lastYear := by
  have first : Date.first.year = Civil.firstYear := by decide
  have last : Date.last.year = Civil.lastYear := by decide
  constructor
  · exact first ▸ Date.year_mono (show Date.first ≤ d from d.notBefore)
  · exact last ▸ Date.year_mono (show d ≤ Date.last from Int.le_sub_one_of_lt d.notAfter)

namespace CalendarSystem

theorem InYear.unique {s : CalendarSystem} {y z pivot : Int} (hy : s.InYear y pivot)
    (hz : s.InYear z pivot) : y = z :=
  Int.le_antisymm (hy.mono hz (Int.le_refl pivot)) (hz.mono hy (Int.le_refl pivot))

theorem toPivot_inj {s : CalendarSystem} {a b : Ymd} {pivot : Int} (ha : s.toPivot a = .ok pivot)
    (hb : s.toPivot b = .ok pivot) : a = b := by
  have year : a.year = b.year := (inYear_of_toPivot ha).unique (inYear_of_toPivot hb)
  obtain ⟨has, passed⟩ := toPivot_eq ha
  obtain ⟨has', passed'⟩ := toPivot_eq hb
  rw [HasDay, ← year] at has'
  rw [← year] at passed'
  obtain ⟨month, day⟩ := MonthTable.HasDay.eq_of_passed has has' (by omega)
  cases a
  cases b
  simp_all

theorem toPivot_of_ofPivot? {s : CalendarSystem} {date : Ymd} {pivot : Int}
    (h : s.ofPivot? pivot = some date) : s.toPivot date = .ok pivot := by
  obtain ⟨has, passed⟩ := ofPivot?_spec h
  cases s with
  | gregorian =>
    obtain ⟨d, found, rfl⟩ := Option.map_eq_some_iff.mp h
    simp [toPivot, Date.ymd, Date.ofYmd?_self, Date.ofPivot?_eq_some_iff.mp found]
  | julian => rw [toPivot, if_pos has, Julian.pivotOf_eq has, passed]; rfl
  | islamic => rw [toPivot, if_pos has, Islamic.pivotOf_eq has, passed]; rfl
  | table c => rw [toPivot, if_pos has, passed]; rfl

theorem fits_of_ofPivot? {s : CalendarSystem} {date : Ymd} {pivot : Int}
    (h : s.ofPivot? pivot = some date) : Fits32 date.year := by
  cases s with
  | gregorian =>
    obtain ⟨d, -, rfl⟩ := Option.map_eq_some_iff.mp h
    obtain ⟨low, high⟩ := d.year_bounds
    simp only [Civil.firstYear, Civil.lastYear] at low high
    simp only [Fits32, Date.ymd]
    omega
  | julian =>
    simp only [ofPivot?, Julian.ofPivot?, Option.bind_eq_bind, Option.bind_eq_some_iff,
      Option.pure_def, Option.some.injEq] at h
    obtain ⟨days, -, year, named, rfl⟩ := h
    obtain ⟨fits, rfl⟩ := fit32?_eq_some_iff.mp named
    exact fits
  | islamic =>
    simp only [ofPivot?, Islamic.ofPivot?, Option.bind_eq_bind, Option.bind_eq_some_iff,
      Option.pure_def, Option.some.injEq, Prod.exists] at h
    obtain ⟨guess, guessed, begun, retreated, year, advanced, month, day, -, rfl⟩ := h
    have fits := Islamic.retreat?_fits (Islamic.estimate?_fits guessed) retreated
    exact Islamic.advance?_fits fits advanced
  | table c =>
    simp only [ofPivot?, TableCalendar.ofPivot?, Option.bind_eq_bind, Option.bind_eq_some_iff,
      Option.pure_def, Option.some.injEq, Prod.exists] at h
    obtain ⟨year, start, walked, month, day, -, rfl⟩ := h
    exact TableCalendar.yearOf?_fits walked

end CalendarSystem

end Holidays
