import Holidays.Generation.Occurrence
import Holidays.Generation.Reference

/-!
Rules expanded to the dates they give inside a range. A date that does not exist in some year, and
an ordinal that a month does not have, give nothing.
-/
namespace Holidays

/-- The `nth` given weekday of a civil month, or its last one for -1. The last one is sought back
from the day before the next month's first. -/
def nthWeekdayOfMonth? (year : Int) (month : Nat) (weekday : Weekday) (nth : Int) : Option Date :=
  if nth = -1 then do
    let _ ← Date.ofYmd? year month 1
    let next ← if month = 12 then Date.ofYmd? (year + 1) 1 1 else Date.ofYmd? year (month + 1) 1
    let last ← next.addDays? (-1)
    last.addDays? (-(((last.weekday.index : Int) - weekday.index) % 7))
  else if 1 ≤ nth then do
    let first ← Date.ofYmd? year month 1
    let skipped := ((weekday.index : Int) - first.weekday.index) % 7
    Date.ofYmd? year month (7 * (nth - 1) + skipped + 1).toNat
  else none

def seekWeekday? (weekday : Weekday) (direction : Direction) (date : Date) : Option Date :=
  if date.weekday = weekday then some date
  else
    match _found : date.addDays? direction.step with
    | none => none
    | some next => seekWeekday? weekday direction next
termination_by match direction with
  | .after => (Date.last.number - date.number).toNat
  | .before => (date.number - Date.first.number).toNat
decreasing_by
  rw [Date.addDays?, Date.ofNumber?_eq_some_iff] at _found
  have low : Date.first.number ≤ next.number := next.notBefore
  have high : next.number ≤ Date.last.number := Int.le_sub_one_of_lt next.notAfter
  cases direction <;> simp only [Direction.step] at _found ⊢ <;> omega

def weekdaySearch? (anchor : Date) (offset : WeekdayOffset) : Option Date := do
  let next ← anchor.addDays? offset.direction.step
  let nearest ← seekWeekday? offset.weekday offset.direction next
  nearest.addDays? (offset.direction.step * 7 * (offset.nth.toNat - 1 : Nat))

inductive Offset where
  | days (count : Int64)
  | weekday (offset : WeekdayOffset)
deriving DecidableEq

namespace Offset

/-- Days go before weekdays; a zeroth weekday does not exist. -/
def select (source : String) (days : Option Int64) (weekday : Option WeekdayOffset) :
    Except GenerationError Offset :=
  match days, weekday with
  | some count, _ => .ok (.days count)
  | none, some offset =>
    if offset.nth = 0 then .error (.zeroWeekdayOffset source) else .ok (.weekday offset)
  | none, none => .error (.missingOffset source)

def from? (offset : Offset) (anchor : Date) : Option Date :=
  match offset with
  | .days count => anchor.addDays? count.toInt
  | .weekday offset => weekdaySearch? anchor offset

end Offset

structure Expander where
  registry : Registry
  references : Option ReferenceDates
  defaultSystem : String

namespace Expander

def foreignMonthDay (x : Expander) (month day : Nat) (system : String) (range : DateRange) :
    Except GenerationError (List Date) := do
  let s ← chronologically (x.registry.get system)
  let first ← chronologically (x.registry.ofCivil range.first system)
  let last ← chronologically (x.registry.ofCivil range.last system)
  let dates ← (span first.ymd.year last.ymd.year).mapM fun year =>
    if s.HasDay ⟨year, month, day⟩ then chronologically do
      let pivot ← s.toPivot ⟨year, month, day⟩
      let civil ← x.registry.ofPivot CalendarSystem.civilId pivot
      return civil.toDate?
    else .ok none
  return (dates.filterMap id).filter fun d => range.Contains d

def fixedMonthDay (x : Expander) (month day : Nat) (system : String) (range : DateRange) :
    Except GenerationError (List Date) :=
  if system = CalendarSystem.civilId then
    .ok ((range.years.filterMap fun year => Date.ofYmd? year month day).filter fun d =>
      range.Contains d)
  else x.foreignMonthDay month day system range

/-- The anchors of a relative rule: those of its reference, or of its month and day in every year
the range touches and one on either side. -/
def anchors (x : Expander) (source : String) (reference : Option String)
    (anchor : Option MonthDay) (range : DateRange) : Except GenerationError (List Date) :=
  match reference, anchor with
  | some key, _ =>
    match x.references with
    | none => .error (.referencesUnavailable source)
    | some references =>
      match references.datesOf? key with
      | none => .error (.unknownReference key)
      | some dates => .ok dates
  | none, some anchor =>
    .ok ((ReferenceDates.yearsAround range).filterMap fun year =>
      Date.ofYmd? year anchor.month.toNat anchor.day.toNat)
  | none, none => .error (.missingAnchor source)

def explicitName (source : EventSource) (d : NotedDate) : String :=
  match d.comment with
  | none => source.name
  | some comment => source.name ++ " (" ++ comment ++ ")"

def dates (x : Expander) (source : EventSource) (range : DateRange) :
    Except GenerationError (List (Date × String)) :=
  let named (ds : List Date) := ds.map fun d => (d, source.name)
  match source.rule with
  | .explicitDates ds =>
    .ok ((ds.filter fun d => range.Contains d.date).map fun d => (d.date, explicitName source d))
  | .fixedMonthDay month day system => do
    return named (← x.fixedMonthDay month.toNat day.toNat (system.getD x.defaultSystem) range)
  | .nthWeekday month weekday nth =>
    .ok (named ((range.years.filterMap fun year =>
      nthWeekdayOfMonth? year month.toNat weekday nth.toInt).filter fun d => range.Contains d))
  | .relative reference anchor days weekday => do
    let offset ← Offset.select source.key days weekday
    let anchors ← x.anchors source.key reference anchor range
    return named ((anchors.filterMap offset.from?).filter fun d => range.Contains d)

def expand (x : Expander) (source : EventSource) (range : DateRange) (provenance : String) :
    Except GenerationError (List Occurrence) := do
  return (← x.dates source range).map fun (date, name) => ⟨source.key, date, name, provenance⟩

end Expander

end Holidays
