import Holidays.Proofs.Chronology.Reachable
import Holidays.Proofs.Chronology.RunningSums

namespace Holidays

namespace CalendarSystem

/-- The built-in systems sum nothing up. -/
def SumsFit : CalendarSystem → Ymd → Prop
  | .table c, date => c.SumsFit date
  | _, _ => True

variable {a : WordArithmetic} {s : CalendarSystem} {date : Ymd} {pivot : Int} {d : SystemDate}

theorem toPivotIn_eq (a : WordArithmetic) (counted : Fits32 date.year) (fit : s.SumsFit date) :
    s.toPivotIn a date = inWords (s.toPivot date) := by
  cases s with
  | gregorian =>
    simp only [toPivotIn, toPivot]
    cases Date.ofYmd? date.year date.month date.day with
    | none => rfl
    | some d => exact Civil.pivotOfIn_eq a d
  | julian =>
    simp only [toPivotIn, toPivot]
    split
    · next has => exact Julian.pivotOfIn_eq counted has
    · rfl
  | islamic =>
    simp only [toPivotIn, toPivot]
    split
    · next has => exact Islamic.pivotOfIn_eq counted has
    · rfl
  | table c =>
    simp only [toPivotIn, toPivot]
    split
    · next has => exact TableCalendar.pivotOfIn_eq has.1 fit
    · rfl

/-- What no conversion can be made of is refused before anything is summed up. -/
theorem toPivotIn_of_error {e : ChronologyError} (refused : s.toPivot date = .error e) :
    s.toPivotIn a date = .error (.refused e) := by
  cases s with
  | gregorian =>
    simp only [toPivot, toPivotIn] at *
    cases named : Date.ofYmd? date.year date.month date.day with
    | none =>
      rw [named] at refused
      cases refused
      rfl
    | some d =>
      rw [named] at refused
      cases refused
  | julian | islamic | table =>
    simp only [toPivot, toPivotIn] at *
    split at refused
    · cases refused
    · next missing =>
      cases refused
      exact if_neg missing

theorem overflow_of_not_sumsFit (has : s.HasDay date) (unfit : ¬ s.SumsFit date) :
    ∃ value, ¬ Fits64 value ∧ s.toPivotIn .checked date = .error (.overflow value) := by
  cases s with
  | gregorian | julian | islamic => exact absurd trivial unfit
  | table c =>
    obtain ⟨value, beyond, stopped⟩ := TableCalendar.overflow_of_not_sumsFit unfit
    exact ⟨value, beyond, (if_pos has).trans stopped⟩

theorem checked_toPivotIn (ran : s.toPivotIn .checked date = .ok pivot) :
    s.toPivot date = .ok pivot ∧ s.SumsFit date := by
  cases s with
  | gregorian =>
    simp only [toPivotIn, toPivot] at *
    cases named : Date.ofYmd? date.year date.month date.day with
    | none => simp [named] at ran
    | some d =>
      rw [named] at ran
      cases (Civil.pivotOfIn_eq .checked d).symm.trans ran
      exact ⟨rfl, trivial⟩
  | julian =>
    simp only [toPivotIn, toPivot] at *
    split at ran
    · next has =>
      rw [if_pos has, Julian.checked_pivotOfIn ran]
      exact ⟨rfl, trivial⟩
    · cases ran
  | islamic =>
    simp only [toPivotIn, toPivot] at *
    split at ran
    · next has =>
      rw [if_pos has, Islamic.checked_pivotOfIn ran]
      exact ⟨rfl, trivial⟩
    · cases ran
  | table c =>
    simp only [toPivotIn, toPivot] at *
    split at ran
    · next has =>
      obtain ⟨fit, rfl⟩ := TableCalendar.checked_pivotOfIn ran
      exact ⟨if_pos has, fit⟩
    · cases ran

theorem ofPivot_eq_ok_iff :
    s.ofPivot pivot = .ok d ↔ d.system = s.id ∧ s.ofPivot? pivot = some d.ymd := by
  obtain ⟨system, ymd⟩ := d
  rw [ofPivot_eq]
  cases s.ofPivot? pivot <;> simp [SystemDate.signed, eq_comm]

theorem system_of_ofPivotIn (ran : s.ofPivotIn a pivot = .ok d) : d.system = s.id := by
  cases s with
  | gregorian =>
    rw [ofPivotIn, Civil.ofPivotIn_eq, inWords_eq_ok_iff] at ran
    exact (ofPivot_eq_ok_iff.mp ran).1
  | julian =>
    simp only [ofPivotIn, Julian.ofPivotIn, bind_eq_ok_iff, pure_eq_ok_iff] at ran
    obtain ⟨_, -, _, -, _, -, _, -, _, -, _, -, _, -, _, -, _, -, rfl⟩ := ran
    rfl
  | islamic =>
    rw [ofPivotIn, Islamic.ofPivotIn_eq, inWords_eq_ok_iff] at ran
    exact (ofPivot_eq_ok_iff.mp ran).1
  | table c =>
    simp only [ofPivotIn, TableCalendar.ofPivotIn, bind_eq_ok_iff, pure_eq_ok_iff] at ran
    obtain ⟨_, -, _, -, rfl⟩ := ran
    rfl

theorem checked_ofPivotIn (ran : s.ofPivotIn .checked pivot = .ok d) :
    s.ofPivot? pivot = some d.ymd ∧ s.toPivotIn .checked d.ymd = .ok pivot := by
  have found : s.ofPivot? pivot = some d.ymd ∧ s.SumsFit d.ymd := by
    cases s with
    | gregorian =>
      rw [ofPivotIn, Civil.ofPivotIn_eq, inWords_eq_ok_iff] at ran
      exact ⟨(ofPivot_eq_ok_iff.mp ran).2, trivial⟩
    | julian =>
      by_cases overflows : Julian.Overflows pivot
      · rw [ofPivotIn, Julian.ofPivotIn_checked overflows] at ran
        cases ran
      · rw [ofPivotIn, Julian.ofPivotIn_eq overflows, inWords_eq_ok_iff] at ran
        exact ⟨(ofPivot_eq_ok_iff.mp ran).2, trivial⟩
    | islamic =>
      rw [ofPivotIn, Islamic.ofPivotIn_eq, inWords_eq_ok_iff] at ran
      exact ⟨(ofPivot_eq_ok_iff.mp ran).2, trivial⟩
    | table c => exact (TableCalendar.checked_ofPivotIn ran).2
  refine ⟨found.1, ?_⟩
  rw [toPivotIn_eq .checked (fits_of_ofPivot? found.1) found.2, toPivot_of_ofPivot? found.1,
    inWords_ok]

end CalendarSystem

namespace Registry

variable {r : Registry} {a : WordArithmetic} {d : SystemDate} {system : String} {pivot : Int}

theorem toPivotIn_eq_ok_iff :
    r.toPivotIn a d = .ok pivot ↔
      ∃ s, r.get d.system = .ok s ∧ s.toPivotIn a d.ymd = .ok pivot := by
  simp only [toPivotIn, bind_eq_ok_iff, inWords_eq_ok_iff]

theorem ofPivotIn_eq_ok_iff :
    r.ofPivotIn a system pivot = .ok d ↔
      ∃ s, r.get system = .ok s ∧ s.ofPivotIn a pivot = .ok d := by
  simp only [ofPivotIn, bind_eq_ok_iff, inWords_eq_ok_iff]

theorem toPivotIn_of_get {s : CalendarSystem} (got : r.get d.system = .ok s) :
    r.toPivotIn a d = s.toPivotIn a d.ymd := by
  simp [toPivotIn, got, bind, Except.bind]

theorem ofPivotIn_of_get {s : CalendarSystem} (got : r.get system = .ok s) :
    r.ofPivotIn a system pivot = s.ofPivotIn a pivot := by
  simp [ofPivotIn, got, bind, Except.bind]

theorem checked_toPivotIn (ran : r.toPivotIn .checked d = .ok pivot) :
    r.toPivot d = .ok pivot := by
  obtain ⟨s, got, there⟩ := toPivotIn_eq_ok_iff.mp ran
  exact bind_eq_ok_iff.mpr ⟨s, got, (CalendarSystem.checked_toPivotIn there).1⟩

end Registry

end Holidays
