import Holidays.Proofs.Chronology.Agreement
import Mathlib.Algebra.Order.BigOperators.Group.List

/-!
Conversions beside the civil dates, in words. A table has too few months for a year beside a civil
date to leave the words. So nothing overflows where fixed days of another system or Julian Easters
are turned into civil dates, and the exact conversions tell what comes out there.
-/
namespace Holidays

namespace TableCalendar

/-- No list in memory is as long as the bound. -/
def Brief (c : TableCalendar) : Prop := c.months.length < 2147483648

variable {c : TableCalendar}

theorem Brief.yearLength_le (brief : c.Brief) (year : Int) :
    c.yearLength year ≤ 9223372030412324865 := by
  have short : ∀ length ∈ c.monthLengths year, length ≤ 4294967295 := fun _ => length_le_of_mem
  have total : c.yearLength year ≤ (c.monthLengths year).length * 4294967295 :=
    List.sum_le_card_nsmul _ _ short
  simp only [monthLengths, List.length_map] at total
  simp only [Brief] at brief
  omega

theorem Brief.roomy (brief : c.Brief) (d : Date) : c.Roomy d.pivot := by
  obtain ⟨low, high⟩ := d.pivot_bounds
  constructor
  case length =>
    intro year
    have short := brief.yearLength_le year
    simp only [Fits64]
    omega
  all_goals
    intro year
    have short := brief.yearLength_le year
    omega

theorem walked_of_between {early late : Date} {first year last : Int} (brief : c.Brief)
    (inFirst : (CalendarSystem.table c).InYear first early.pivot)
    (inLast : (CalendarSystem.table c).InYear last late.pivot) (above : first ≤ year)
    (below : year ≤ last) : c.Walked year := by
  obtain ⟨low, -⟩ := early.pivot_bounds
  obtain ⟨-, high⟩ := late.pivot_bounds
  have begun := (CalendarSystem.table c).yearStart_mono above
  have ended := (CalendarSystem.table c).yearStart_mono (show year + 1 ≤ last + 1 by omega)
  have next := c.yearStart_succ year
  have nextFirst := c.yearStart_succ first
  have nextLast := c.yearStart_succ last
  have short := brief.yearLength_le
  have firstShort := short first
  have lastShort := short last
  have yearShort := short year
  simp only [CalendarSystem.InYear, CalendarSystem.yearStart, yearLength] at *
  constructor <;> simp only [Fits64, yearLength]
  case lengths =>
    intro y held
    have := short y
    omega
  all_goals omega

end TableCalendar

namespace CalendarSystem

def Brief : CalendarSystem → Prop
  | .table c => c.Brief
  | _ => True

variable {a : WordArithmetic} {s : CalendarSystem}

theorem ofPivotIn_date (brief : s.Brief) (d : Date) :
    s.ofPivotIn a d.pivot = inWords (s.ofPivot d.pivot) := by
  cases s with
  | gregorian => exact Civil.ofPivotIn_eq d.pivot
  | julian =>
    apply Julian.ofPivotIn_eq
    intro overflows
    have early := overflows.2
    have low := d.pivot_bounds.1
    omega
  | islamic => exact Islamic.ofPivotIn_eq
  | table c => exact TableCalendar.ofPivotIn_eq (brief.roomy d)

theorem toPivotIn_between (brief : s.Brief) {early late : Date} {first date last : Ymd}
    (hf : s.ofPivot? early.pivot = some first) (hl : s.ofPivot? late.pivot = some last)
    (above : first.year ≤ date.year) (below : date.year ≤ last.year) :
    s.toPivotIn a date = inWords (s.toPivot date) := by
  have counted : Fits32 date.year :=
    ⟨Int.le_trans (fits_of_ofPivot? hf).1 above, Int.le_trans below (fits_of_ofPivot? hl).2⟩
  by_cases has : s.HasDay date
  · apply toPivotIn_eq a counted
    cases s with
    | gregorian | julian | islamic => trivial
    | table c =>
      have walked := TableCalendar.walked_of_between brief (inYear_of_ofPivot? hf)
        (inYear_of_ofPivot? hl) above below
      exact walked.sumsFit has
  · cases there : s.toPivot date with
    | error e => rw [toPivotIn_of_error there, inWords_error]
    | ok pivot => exact absurd (toPivot_eq there).1 has

end CalendarSystem

namespace Registry

def Brief (r : Registry) : Prop := ∀ id s, r.get id = .ok s → s.Brief

variable {a : WordArithmetic} {r : Registry}

theorem Reachable.ofCivilIn_eq (h : r.Reachable) (brief : r.Brief) (d : Date) (system : String) :
    r.ofCivilIn a d system = inWords (r.ofCivil d system) := by
  simp only [ofCivilIn, convertIn, ofCivil, convert, h.toPivotIn_civil, h.toPivot_civil, bind,
    Except.bind]
  cases got : r.get system with
  | error e => simp [ofPivotIn, ofPivot, got, bind, Except.bind]
  | ok s =>
    rw [ofPivotIn_of_get got, CalendarSystem.ofPivotIn_date (brief system s got),
      ofPivot_of_get got, s.ofPivot_eq]

/-- Looking up a month and day in the years from one civil date to another takes no arithmetic that
can overflow. -/
theorem Reachable.lookup_exact (h : r.Reachable) (brief : r.Brief) {system : String}
    {s : CalendarSystem} (got : r.get system = .ok s) (range : DateRange) :
    r.ofCivilIn a range.first system = inWords (r.ofCivil range.first system) ∧
    r.ofCivilIn a range.last system = inWords (r.ofCivil range.last system) ∧
    ∀ first last, r.ofCivil range.first system = .ok first →
      r.ofCivil range.last system = .ok last → ∀ date : Ymd, first.ymd.year ≤ date.year →
        date.year ≤ last.ymd.year →
          (do r.ofPivotIn a CalendarSystem.civilId (← s.toPivotIn a date)) =
            inWords (do r.ofPivot CalendarSystem.civilId (← s.toPivot date)) := by
  refine ⟨h.ofCivilIn_eq brief _ _, h.ofCivilIn_eq brief _ _, ?_⟩
  intro first last low high date above below
  obtain ⟨atFirst, -⟩ := (h.ofCivil_eq_ok_iff got).mp low
  obtain ⟨atLast, -⟩ := (h.ofCivil_eq_ok_iff got).mp high
  rw [CalendarSystem.toPivotIn_between (brief system s got) atFirst atLast above below]
  cases s.toPivot date with
  | error e => rfl
  | ok pivot => exact ofPivotIn_civil h.get_civil pivot

theorem Reachable.toCivilIn_julian (h : r.Reachable) {date : Ymd} (counted : Fits32 date.year) :
    r.toCivilIn a ⟨CalendarSystem.julianId, date⟩ =
      inWords (r.toCivil ⟨CalendarSystem.julianId, date⟩) := by
  have same : r.toPivotIn a ⟨CalendarSystem.julianId, date⟩ =
      inWords (r.toPivot ⟨CalendarSystem.julianId, date⟩) := by
    rw [toPivotIn_of_get h.get_julian, CalendarSystem.toPivotIn_eq (s := .julian) a counted trivial]
    simp [toPivot, h.get_julian, bind, Except.bind]
  have foreign : (⟨CalendarSystem.julianId, date⟩ : SystemDate).toDate? = none :=
    if_neg (by simp only [SystemDate.isCivil]; decide)
  simp only [toCivilIn, toCivil, foreign, same]
  cases r.toPivot ⟨CalendarSystem.julianId, date⟩ with
  | error e => rfl
  | ok pivot =>
    simp only [inWords_ok, bind, Except.bind, ofPivotIn_civil h.get_civil]
    cases r.ofPivot CalendarSystem.civilId pivot with
    | error e => rfl
    | ok d =>
      simp only [inWords_ok]
      cases d.toDate? <;> rfl

end Registry

end Holidays
