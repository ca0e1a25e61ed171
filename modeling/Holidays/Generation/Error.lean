import Holidays.Chronology.Registry
import Holidays.Civil.Range

namespace Holidays

inductive GenerationError where
  | unknownFormula (tag : String)
  | unknownReference (key : String)
  | referencesUnavailable (source : String)
  | missingAnchor (source : String)
  | missingOffset (source : String)
  | zeroWeekdayOffset (source : String)
  | chronology (error : ChronologyError)
  | range (error : InvertedRange)
deriving DecidableEq

def GenerationError.message : GenerationError → String
  | .unknownFormula tag => "Unknown reference formula: " ++ tag
  | .unknownReference key => "Unknown reference: " ++ key
  | .referencesUnavailable source =>
    "Event source " ++ source ++ " refers to a reference but no reference dates were resolved"
  | .missingAnchor source =>
    "Event source " ++ source ++ " has neither a reference nor an anchor date"
  | .missingOffset source =>
    "Event source " ++ source ++ " has neither offset_days nor weekday_offset"
  | .zeroWeekdayOffset source => "Event source " ++ source ++ " has a weekday offset with nth = 0"
  | .chronology error => error.message
  | .range error => error.message

def chronologically {α : Type} : Except ChronologyError α → Except GenerationError α
  | .error e => .error (.chronology e)
  | .ok a => .ok a

end Holidays
