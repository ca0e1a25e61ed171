import Holidays.Document.Rule

namespace Holidays

/-- An instance of the source with this key; `provenance` says how its date came about. -/
structure Occurrence where
  key : String
  date : Date
  name : String
  provenance : String
deriving DecidableEq

structure Event where
  date : Date
  classification : Classification
  description : String
  provenance : String
deriving DecidableEq

end Holidays
