import Holidays.Chronology.System
import Holidays.Document.Source

namespace Holidays

structure Metadata where
  name : Option String
  description : Option String
  system : Option String
deriving DecidableEq, Repr

def Metadata.empty : Metadata := ⟨none, none, none⟩

/-- Field by field, what `above` sets goes before what is set below it. -/
def Metadata.overlay (below above : Metadata) : Metadata where
  name := above.name <|> below.name
  description := above.description <|> below.description
  system := above.system <|> below.system

structure ModuleDocument where
  id : String
  uses : List String
  references : List Reference
  weekends : List Weekday
  sources : List EventSource
deriving DecidableEq

structure CalendarDocument where
  id : String
  metadata : Metadata
  parents : List String
  uses : List String
  policy : Option ShiftPolicy
  sources : List EventSource
  classifications : List (String × Classification)
  deltas : List Delta
deriving DecidableEq

inductive Document where
  | calendar (document : CalendarDocument)
  | module (document : ModuleDocument)
  | chronology (definition : ChronologyDefinition)
deriving DecidableEq

/-- A calendar with all that it extends and uses; `chain` names them in the order of merging. -/
structure Specification where
  id : String
  metadata : Metadata
  weekend : Weekend
  policy : ShiftPolicy
  references : List Reference
  sources : List EventSource
  classifications : List (String × Classification)
  deltas : List Delta
  chain : List String
deriving DecidableEq

namespace Specification

def system (s : Specification) : String := s.metadata.system.getD CalendarSystem.civilId

def source? (s : Specification) (key : String) : Option EventSource :=
  s.sources.find? (·.key == key)

end Specification

end Holidays
