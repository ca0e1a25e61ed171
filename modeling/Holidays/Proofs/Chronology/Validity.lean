import Holidays.Proofs.Chronology.Registration

namespace Holidays

namespace CalendarSystem

variable {s : CalendarSystem} {date : Ymd}

theorem exists_toPivot_iff :
    (∃ pivot, s.toPivot date = .ok pivot) ↔ s.HasYear date.year ∧ s.HasDay date := by
  constructor
  · rintro ⟨pivot, there⟩
    refine ⟨?_, (toPivot_eq there).1⟩
    cases s with
    | gregorian =>
      simp only [toPivot] at there
      split at there
      · cases there
      · next d named => exact Date.year_of_ofYmd? named ▸ d.year_bounds
    | julian | islamic | table => trivial
  · rintro ⟨year, has⟩
    exact toPivot_of_hasDay year has

theorem toPivot_eq_error_iff :
    s.toPivot date = .error (.invalidDate s.id date.year date.month date.day) ↔
      ¬ (s.HasYear date.year ∧ s.HasDay date) := by
  rw [← exists_toPivot_iff]
  cases there : s.toPivot date with
  | error e => simp [toPivot_eq_error there]
  | ok pivot => simp

theorem hasYear_of_not_civil (other : s.id ≠ civilId) (year : Int) : s.HasYear year := by
  cases s with
  | gregorian => exact absurd rfl other
  | julian | islamic | table => trivial

end CalendarSystem

namespace Registry

open CalendarSystem (gregorian)

variable {r : Registry} {s : CalendarSystem}

/-- A date is converted just where its system has the day and the sums on the way to its pivot fit.
A date that the system does not have is called invalid, and one whose sums do not fit overflows. -/
structure Agrees (r : Registry) (s : CalendarSystem) (date : Ymd) : Prop where
  pivot : (∃ pivot, r.toPivotIn .checked ⟨s.id, date⟩ = .ok pivot) ↔
    s.HasDay date ∧ s.SumsFit date
  invalid : ¬ s.HasDay date → r.toPivotIn .checked ⟨s.id, date⟩ =
    .error (.refused (.invalidDate s.id date.year date.month date.day))
  overflow : s.HasDay date → ¬ s.SumsFit date →
    ∃ value, ¬ Fits64 value ∧ r.toPivotIn .checked ⟨s.id, date⟩ = .error (.overflow value)

/-- The tables and the pivots of a registered system agree in the years of 32 bits as far as the
sums fit, which those of the built-in systems do. The exception is the civil system in the years
that have no dates: there every date is called invalid, also one that the tables have. -/
theorem toPivot_validity (reachable : r.Reachable) (held : s ∈ r.systems) (date : Ymd)
    (counted : Fits32 date.year) :
    (s.id ≠ CalendarSystem.civilId → r.Agrees s date) ∧
    (s.HasYear date.year → r.Agrees s date) ∧
    (¬ s.HasYear date.year → r.toPivotIn .checked ⟨s.id, date⟩ =
      .error (.refused (.invalidDate s.id date.year date.month date.day))) := by
  have same : r.toPivotIn .checked ⟨s.id, date⟩ = s.toPivotIn .checked date :=
    toPivotIn_of_get (get_of_mem reachable.distinct held)
  have invalid (none : ¬ (s.HasYear date.year ∧ s.HasDay date)) :
      r.toPivotIn .checked ⟨s.id, date⟩ =
        .error (.refused (.invalidDate s.id date.year date.month date.day)) := by
    rw [same]
    exact CalendarSystem.toPivotIn_of_error (CalendarSystem.toPivot_eq_error_iff.mpr none)
  have agrees (year : s.HasYear date.year) : r.Agrees s date := by
    constructor
    case pivot =>
      rw [same]
      constructor
      · rintro ⟨pivot, there⟩
        obtain ⟨exact, fit⟩ := CalendarSystem.checked_toPivotIn there
        exact ⟨(CalendarSystem.exists_toPivot_iff.mp ⟨pivot, exact⟩).2, fit⟩
      · rintro ⟨has, fit⟩
        obtain ⟨pivot, there⟩ := CalendarSystem.exists_toPivot_iff.mpr ⟨year, has⟩
        rw [CalendarSystem.toPivotIn_eq .checked counted fit, there]
        exact ⟨pivot, rfl⟩
    case invalid => exact fun missing => invalid fun both => missing both.2
    case overflow =>
      rw [same]
      exact CalendarSystem.overflow_of_not_sumsFit
  refine ⟨?_, agrees, ?_⟩
  · intro other
    exact agrees (CalendarSystem.hasYear_of_not_civil other date.year)
  · intro beyond
    exact invalid fun both => beyond both.1

/-- The calendar of ten months, begun on the last day that a word can number. -/
def lastTenDays : ChronologyDefinition :=
  { TableCalendar.tenDays with epoch := 9223372036854775807 }

def lastTenDayCalendar : TableCalendar :=
  { TableCalendar.tenDayCalendar with epoch := 9223372036854775807, epoch_fits := by decide }

/-- The last civil date, a day that its month does not have, and the second day of a calendar that
begins on the last one. -/
theorem toPivot_validity_lastYear :
    gregorian.HasYear 262142 ∧
    (∃ pivot, (defaults.run [.define lastTenDays]).toPivotIn .checked
      ⟨gregorian.id, ⟨262142, 12, 31⟩⟩ = .ok pivot) ∧
    (defaults.run [.define lastTenDays]).toPivotIn .checked ⟨gregorian.id, ⟨262142, 11, 31⟩⟩ =
      .error (.refused (.invalidDate gregorian.id 262142 11 31)) ∧
    ∃ value, ¬ Fits64 value ∧
      (defaults.run [.define lastTenDays]).toPivotIn .checked ⟨"tenday", ⟨1, 1, 2⟩⟩ =
        .error (.overflow value) := by
  have reachable : (defaults.run [.define lastTenDays]).Reachable := Reachable.defaults.run _
  have year : gregorian.HasYear 262142 := ⟨by decide, by decide⟩
  have civil : gregorian ∈ (defaults.run [.define lastTenDays]).systems :=
    reachable.mem_builtIn .gregorian
  obtain ⟨-, last, -⟩ := toPivot_validity reachable civil ⟨262142, 12, 31⟩ (by decide)
  obtain ⟨-, missing, -⟩ := toPivot_validity reachable civil ⟨262142, 11, 31⟩ (by decide)
  have defined : (defaults.run [.define lastTenDays]).systems =
      [.gregorian, .julian, .islamic, .table lastTenDayCalendar] := by
    have built : TableCalendar.ofDefinition lastTenDays = .ok lastTenDayCalendar :=
      TableCalendar.ofDefinition_eq_ok_of (by decide +kernel) (by decide) rfl rfl rfl rfl
        LeapRule.compile_everyFourth
    simp only [run, List.foldl_cons, List.foldl_nil, change, enrollDefinition, built]
    rfl
  have held : CalendarSystem.table lastTenDayCalendar ∈
    (defaults.run [.define lastTenDays]).systems := by simp [defined]
  obtain ⟨table, -, -⟩ := toPivot_validity reachable held ⟨1, 1, 2⟩ (by decide)
  have unfit : ¬ lastTenDayCalendar.SumsFit ⟨1, 1, 2⟩ := by
    intro fit
    exact absurd fit.passed (by decide)
  exact ⟨year, (last year).pivot.mpr ⟨by decide, trivial⟩, (missing year).invalid (by decide),
    (table (by decide)).overflow (by decide) unfit⟩

/-- The first day of the first civil year without dates is in the tables and has no pivot. -/
theorem toPivot_gregorian_pastYears :
    ¬ ∀ (r : Registry) (s : CalendarSystem) (date : Ymd), r.Reachable → s ∈ r.systems →
      Fits32 date.year →
        ((∃ pivot, r.toPivotIn .checked ⟨s.id, date⟩ = .ok pivot) ↔ s.HasDay date) ∧
        (¬ s.HasDay date → r.toPivotIn .checked ⟨s.id, date⟩ =
          .error (.refused (.invalidDate s.id date.year date.month date.day))) := by
  intro claimed
  obtain ⟨converted, -⟩ :=
    claimed defaults gregorian ⟨262143, 1, 1⟩ .defaults (by simp [defaults]) (by decide)
  obtain ⟨pivot, there⟩ := converted.mpr (by decide)
  have refused : gregorian.toPivot ⟨262143, 1, 1⟩ =
      .error (.invalidDate gregorian.id 262143 1 1) := by
    rw [CalendarSystem.toPivot_eq_error_iff]
    rintro ⟨⟨-, late⟩, -⟩
    exact absurd late (by decide)
  rw [toPivotIn_of_get Reachable.defaults.get_civil,
    CalendarSystem.toPivotIn_of_error refused] at there
  cases there

end Registry

end Holidays
