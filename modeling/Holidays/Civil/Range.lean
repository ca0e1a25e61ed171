import Holidays.Civil.DateText

namespace Holidays

structure DateRange where
  first : Date
  last : Date
  ordered : first ≤ last
deriving DecidableEq

structure InvertedRange where
  first : Date
  last : Date
deriving DecidableEq, Repr

def InvertedRange.message (e : InvertedRange) : String :=
  "Invalid date range: " ++ e.first.text ++ " is after " ++ e.last.text

namespace DateRange

def of (first last : Date) : Except InvertedRange DateRange :=
  if h : first ≤ last then .ok ⟨first, last, h⟩ else .error ⟨first, last⟩

def Contains (r : DateRange) (d : Date) : Prop := r.first ≤ d ∧ d ≤ r.last

instance (r : DateRange) (d : Date) : Decidable (r.Contains d) :=
  inferInstanceAs (Decidable (_ ∧ _))

def years (r : DateRange) : List Int := span r.first.year r.last.year

/-- The days in order. The last date there is has no day after it and is never listed. -/
def days (r : DateRange) : List Date :=
  (span r.first.number r.last.number).filterMap fun n =>
    if n = Date.last.number then none else Date.ofNumber? n

def widen (r : DateRange) (n : Nat) : DateRange where
  first := (r.first.addDays? (-n)).getD Date.first
  last := (r.last.addDays? n).getD Date.last
  ordered := by
    have ends : r.first.number ≤ r.last.number := r.ordered
    show (Option.getD _ _ : Date).number ≤ (Option.getD _ _ : Date).number
    cases low : r.first.addDays? (-n) with
    | none => exact (Option.getD _ _ : Date).notBefore
    | some d =>
      rw [Date.addDays?, Date.ofNumber?_eq_some_iff] at low
      cases high : r.last.addDays? n with
      | none =>
        have := d.notAfter
        simp only [Option.getD, Date.last]
        omega
      | some e =>
        rw [Date.addDays?, Date.ofNumber?_eq_some_iff] at high
        simp only [Option.getD]
        omega

def text (r : DateRange) : String := r.first.text ++ "..=" ++ r.last.text

theorem mem_days {r : DateRange} {d : Date} :
    d ∈ r.days ↔ r.Contains d ∧ d ≠ Date.last := by
  simp only [days, List.mem_filterMap, mem_span]
  constructor
  · rintro ⟨n, bounds, h⟩
    split at h
    · cases h
    · next other =>
      rw [Date.ofNumber?_eq_some_iff] at h
      subst h
      exact ⟨bounds, fun e => other (e ▸ rfl)⟩
  · rintro ⟨inside, other⟩
    refine ⟨d.number, inside, ?_⟩
    rw [if_neg fun e => other (Date.ext_number e), Date.ofNumber?_eq_some_iff]

end DateRange

end Holidays
