import Holidays.Chronology.Definition
import Holidays.Chronology.Julian

/-!
Calendars built from definitions, in exact integers. Years are laid end to end from the epoch in
both directions, so a pivot's year is found by walking; every year has a day, so the walk ends.
-/
namespace Holidays

structure TableCalendar where
  id : String
  epoch : Int
  months : List Month
  rule : LeapRule
  epoch_fits : Fits64 epoch
  months_ne_nil : months ≠ []
  positive : ∀ m ∈ months, m.days ≠ 0 ∧ m.leapDays ≠ some 0

namespace TableCalendar

def monthLengths (c : TableCalendar) (year : Int) : List Nat :=
  c.months.map (·.length (c.rule.isLeap year))

def yearLength (c : TableCalendar) (year : Int) : Nat := MonthTable.total (c.monthLengths year)

theorem length_pos (c : TableCalendar) {m : Month} (held : m ∈ c.months) (leap : Bool) :
    0 < m.length leap := by
  have := c.positive m held
  have nonzero {n : UInt32} (h : n ≠ 0) : 0 < n.toNat :=
    Nat.pos_of_ne_zero fun e => h (UInt32.toNat_inj.1 e)
  apply nonzero
  cases h : m.leapDays <;> split <;> simp_all

theorem yearLength_pos (c : TableCalendar) (year : Int) : 0 < c.yearLength year := by
  obtain ⟨m, ms, shape⟩ := List.exists_cons_of_ne_nil c.months_ne_nil
  have days := c.length_pos (m := m) (by simp [shape]) (c.rule.isLeap year)
  simp only [yearLength, monthLengths, shape, List.map_cons, MonthTable.total_cons]
  omega

def yearStart (c : TableCalendar) (year : Int) : Int :=
  if 1 ≤ year then c.epoch + MonthTable.total ((span 1 (year - 1)).map c.yearLength)
  else c.epoch - MonthTable.total ((span year 0).map c.yearLength)

def pivotOf (c : TableCalendar) (date : Ymd) : Int :=
  c.yearStart date.year + MonthTable.daysBefore (c.monthLengths date.year) date.month + date.day - 1

def forward? (c : TableCalendar) (pivot year start : Int) : Option (Int × Int) :=
  if pivot < start + c.yearLength year then some (year, start)
  else
    match fit32? (year + 1) with
    | none => none
    | some _ => c.forward? pivot (year + 1) (start + c.yearLength year)
termination_by (pivot + 1 - start).toNat
decreasing_by
  have := c.yearLength_pos year
  omega

def back? (c : TableCalendar) (pivot year start : Int) : Option (Int × Int) :=
  if start ≤ pivot then some (year, start)
  else
    match fit32? (year - 1) with
    | none => none
    | some _ => c.back? pivot (year - 1) (start - c.yearLength (year - 1))
termination_by (start - pivot).toNat
decreasing_by
  have := c.yearLength_pos (year - 1)
  omega

def yearOf? (c : TableCalendar) (pivot : Int) : Option (Int × Int) :=
  if c.epoch ≤ pivot then c.forward? pivot 1 c.epoch else c.back? pivot 1 c.epoch

def ofPivot? (c : TableCalendar) (pivot : Int) : Option Ymd := do
  let (year, start) ← c.yearOf? pivot
  let (month, day) ← MonthTable.locate (c.monthLengths year) (pivot - start).toNat
  return ⟨year, month, day⟩

/-- The calendar that a definition describes, under its identifier without blanks around it. -/
def ofDefinition (d : ChronologyDefinition) : Except ChronologyError TableCalendar :=
  let id := Text.trim d.id
  if id = "" then .error (.invalidDefinition id .emptyIdentifier)
  else if d.algorithm ≠ .formula then .error (.unsupportedAlgorithm d.algorithm)
  else if some_months : d.months = [] then .error (.invalidDefinition id .noMonths)
  else
    match checked : d.months.find? fun m => m.days == 0 || m.leapDays == some 0 with
    | some m => .error (.invalidDefinition id (.emptyMonth m.name))
    | none =>
      match d.leapFormula with
      | none => .error (.invalidDefinition id .noLeapFormula)
      | some source =>
        match LeapRule.compile source with
        | .error fault => .error (.formula fault)
        | .ok rule =>
          have fits : Fits64 d.epoch.toInt :=
            ⟨d.epoch.le_toInt, Int.le_sub_one_of_lt d.epoch.toInt_lt⟩
          .ok ⟨id, d.epoch.toInt, d.months, rule, fits, some_months, fun m hm => by
            have := List.find?_eq_none.1 checked m hm
            simpa using this⟩

end TableCalendar

end Holidays
