import Holidays.Document.Source
import Holidays.Easter
import Holidays.Generation.Error
import Holidays.Keyed

/-!
The dates of references around a range: those of every year it touches and of one year on either
side, since a rule may reach into the range from a reference outside it.
-/
namespace Holidays

abbrev ReferenceDates := List (String × List Date)

namespace ReferenceDates

def datesOf? (dates : ReferenceDates) (key : String) : Option (List Date) :=
  (Keyed.find? Prod.fst key dates).map Prod.snd

def yearsAround (range : DateRange) : List Int :=
  span (range.first.year - 1) (range.last.year + 1)

def ofReference (registry : Registry) (range : DateRange) (r : Reference) :
    Except GenerationError (String × List Date) :=
  match EasterFormula.ofTag? r.formula with
  | none => .error (.unknownFormula r.formula)
  | some formula => do
    let dates ← (yearsAround range).mapM fun year => chronologically (formula.dateIn registry year)
    return (r.key, dates.filterMap id)

/-- The dates of all references; the last of several with one key counts. -/
def ofReferences (registry : Registry) (range : DateRange) (references : List Reference) :
    Except GenerationError ReferenceDates := do
  return Keyed.putAll Prod.fst [] (← references.mapM (ofReference registry range))

end ReferenceDates

end Holidays
