import Holidays.Civil.Range
import Holidays.Document.Calendar
import Holidays.Generation.Occurrence
import Holidays.Keyed

namespace Holidays

namespace Delta

def reclassifies? (o : Occurrence) : Delta → Option Classification
  | .reclassify key date c => if key = o.key ∧ date = o.date then some c else none
  | _ => none

def addsAs? (o : Occurrence) : Delta → Option Classification
  | .add key date _ c => if key = o.key ∧ date = o.date then c else none
  | _ => none

end Delta

namespace Specification

/-- In order of precedence: the last reclassification, the calendar's own classifications, that of
an added event, that of the source, and `closed`. -/
def classificationOf (s : Specification) (o : Occurrence) : Classification :=
  (s.deltas.reverse.findSome? (Delta.reclassifies? o) <|>
    (Keyed.find? Prod.fst o.key s.classifications).map Prod.snd <|>
    s.deltas.findSome? (Delta.addsAs? o) <|>
    (s.source? o.key).bind EventSource.classification).getD .closed

def classify (s : Specification) (os : List Occurrence) : List Event :=
  os.map fun o => ⟨o.date, s.classificationOf o, o.name, o.provenance⟩

end Specification

namespace Event

def weekendProvenance : String := "weekend"

def ofWeekendDay (d : Date) : Event := ⟨d, .weekend, "Weekend", weekendProvenance⟩

/-- The events with one more for every weekend day of the range that none of them is on. -/
def fillWeekends (weekend : Weekend) (range : DateRange) (events : List Event) : List Event :=
  let taken := events.map Event.date
  events ++ (range.days.filter fun d => weekend.covers d && !taken.contains d).map ofWeekendDay

end Event

end Holidays
