import Holidays.Generation.Classify
import Holidays.Generation.Expansion
import Holidays.Generation.Observance
import Holidays.Generation.Override
import Holidays.Resolution.Resolver

namespace Holidays

/-- How far outside the range a holiday may lie and still be looked at for being observed in it. -/
def shiftPadding : Nat := 7

namespace Specification

def systems (s : Specification) : List String :=
  s.system :: s.sources.filterMap fun source => source.rule.system?

def validate (s : Specification) (registry : Registry) : Except GenerationError Unit :=
  match s.systems.find? fun id => !registry.contains id with
  | some id => .error (.chronology (.unknownSystem id))
  | none => .ok ()

def expansionRange (s : Specification) (range : DateRange) : DateRange :=
  if s.policy = .none then range else range.widen shiftPadding

def expandSource (x : Expander) (range : DateRange) (source : EventSource) :
    Except GenerationError (List Occurrence) := do
  let os ← x.expand source range ("rule:" ++ source.key)
  return os.filter fun o => source.isActiveIn o.date.year

def expand (s : Specification) (registry : Registry) (range : DateRange) :
    Except GenerationError (List Occurrence) := do
  let references ← ReferenceDates.ofReferences registry range s.references
  let x : Expander := ⟨registry, some references, s.system⟩
  return (← s.sources.mapM (expandSource x range)).flatten

def shiftableKeys (s : Specification) : List String :=
  (s.sources.filter EventSource.isShiftable).map EventSource.key

/-- The events that expanded occurrences become: shifted, cut to the range, overridden, classified,
filled up with weekend days and sorted by date, first come first within a day. -/
def finish (s : Specification) (range : DateRange) (os : List Occurrence) : List Event :=
  let observed := Observance.apply s.policy s.weekend s.shiftableKeys range os
  let inside := observed.filter fun o => range.Contains o.date
  let events := s.classify (Delta.applyAll s.sources range inside s.deltas)
  (Event.fillWeekends s.weekend range events).mergeSort fun a b => decide (a.date ≤ b.date)

def generate (s : Specification) (registry : Registry) (first last : Date) :
    Except GenerationError (List Event) :=
  match DateRange.of first last with
  | .error e => .error (.range e)
  | .ok range => do
    s.validate registry
    return s.finish range (← s.expand registry (s.expansionRange range))

end Specification

inductive CalendarError where
  | resolution (error : ResolutionError)
  | generation (error : GenerationError)
deriving DecidableEq

def CalendarError.message : CalendarError → String
  | .resolution error => error.message
  | .generation error => error.message

def Resolver.generate (r : Resolver) (registry : Registry) (id : String) (first last : Date) :
    Except CalendarError (List Event) × Resolver :=
  match r.resolve id with
  | (.error e, r) => (.error (.resolution e), r)
  | (.ok s, r) =>
    match s.generate registry first last with
    | .error e => (.error (.generation e), r)
    | .ok events => (.ok events, r)

end Holidays
