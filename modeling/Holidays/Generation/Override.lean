import Holidays.Civil.Range
import Holidays.Document.Source
import Holidays.Generation.Occurrence
import Holidays.Keyed

/-!
Deltas applied to occurrences. A key and a date have at most one occurrence: the first of those
given, or the one added first after the last removal.
-/
namespace Holidays

namespace Occurrence

def pair (o : Occurrence) : String × Date := (o.key, o.date)

def addNew (os : List Occurrence) (o : Occurrence) : List Occurrence :=
  if (os.map pair).contains o.pair then os else os ++ [o]

end Occurrence

namespace Delta

def sourceName (sources : List EventSource) (key : String) : String :=
  ((sources.find? (·.key == key)).map EventSource.name).getD key

def addedProvenance : String := "delta:add"

/-- One delta; reclassifications are for later. -/
def applyOne (sources : List EventSource) (range : DateRange) (os : List Occurrence) :
    Delta → List Occurrence
  | .add key date name _ =>
    if range.Contains date then
      Occurrence.addNew os ⟨key, date, name.getD (sourceName sources key), addedProvenance⟩
    else os
  | .remove key date => Keyed.erase Occurrence.pair (key, date) os
  | .reclassify _ _ _ => os

def applyAll (sources : List EventSource) (range : DateRange) (os : List Occurrence)
    (deltas : List Delta) : List Occurrence :=
  deltas.foldl (applyOne sources range) (os.foldl Occurrence.addNew [])

end Delta

end Holidays
