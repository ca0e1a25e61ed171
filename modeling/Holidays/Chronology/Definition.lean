import Holidays.LeapRule.Parser

namespace Holidays

/-- A month and its length; `leapDays` is its length in leap years where that differs. -/
structure Month where
  name : String
  days : UInt32
  leapDays : Option UInt32
deriving DecidableEq, Repr

def Month.length (m : Month) (leap : Bool) : Nat :=
  (if leap then m.leapDays.getD m.days else m.days).toNat

inductive AlgorithmKind where
  | formula
  | lookupTable
  | metonicCycle
deriving DecidableEq, Repr

namespace AlgorithmKind

def all : List AlgorithmKind := [.formula, .lookupTable, .metonicCycle]

def text : AlgorithmKind → String
  | .formula => "FORMULA"
  | .lookupTable => "LOOKUP_TABLE"
  | .metonicCycle => "METONIC_CYCLE"

end AlgorithmKind

/-- `epoch` is the pivot of day 1 of month 1 of year 1. -/
structure ChronologyDefinition where
  id : String
  name : Option String
  description : Option String
  epoch : Int64
  months : List Month
  algorithm : AlgorithmKind
  leapFormula : Option String
deriving DecidableEq

inductive DefinitionFault where
  | emptyIdentifier
  | noMonths
  | emptyMonth (name : String)
  | noLeapFormula
deriving DecidableEq, Repr

def DefinitionFault.message : DefinitionFault → String
  | .emptyIdentifier => "identifier is empty"
  | .noMonths => "no months defined"
  | .emptyMonth name => "month " ++ name ++ " has no days"
  | .noLeapFormula => "missing leap_year formula"

/-- Why a date, a pivot or a definition is refused. Pivots are Julian Day Numbers. -/
inductive ChronologyError where
  | unknownSystem (id : String)
  | alreadyRegistered (id : String)
  | invalidDate (system : String) (year : Int) (month day : Nat)
  | pivotOutOfRange (system : String) (pivot : Int)
  | invalidDefinition (id : String) (fault : DefinitionFault)
  | unsupportedAlgorithm (kind : AlgorithmKind)
  | formula (fault : LeapRule.Fault)
deriving DecidableEq, Repr

def ChronologyError.message : ChronologyError → String
  | .unknownSystem id => "Unknown calendar system: " ++ id
  | .alreadyRegistered id => "Calendar system already registered: " ++ id
  | .invalidDate system year month day =>
    "Invalid date " ++ Text.integer year ++ "-" ++ Text.natural month ++ "-" ++ Text.natural day ++
      " in calendar system " ++ system
  | .pivotOutOfRange system pivot =>
    "Pivot " ++ Text.integer pivot ++ " is out of range for calendar system " ++ system
  | .invalidDefinition id fault =>
    "Invalid chronology definition " ++ id ++ ": " ++ fault.message
  | .unsupportedAlgorithm kind => "Unsupported chronology algorithm: " ++ kind.text
  | .formula fault => "Invalid leap-year formula: " ++ fault.message

end Holidays
