import Holidays.Document.Calendar
import Holidays.Document.RuleJson
import Holidays.Keyed
import Holidays.Json.Reader

namespace Holidays

open Json

namespace Metadata

def members (m : Metadata) : Members :=
  ofOption "name" .str m.name ++ (ofOption "description" .str m.description ++
    ofOption "calendar_system" .str m.system)

def toJson (m : Metadata) : Json := .obj m.members

def ofJson? (j : Json) : Option Metadata := do
  let ms ← asMembers j
  let name ← optional ["name"] asString ms
  let description ← optional ["description"] asString ms
  let system ← optional ["calendar_system", "calendar-system"] asString ms
  return { name, description, system }

end Metadata

def ofClassifications (cs : List (String × Classification)) : Json :=
  .obj (cs.map fun c => (c.1, c.2.toJson))

/-- A repeated key keeps its first position and takes its last value. -/
def asClassifications (spelling : Spelling) (j : Json) :
    Option (List (String × Classification)) := do
  let ms ← asMembers j
  let pairs ← ms.mapM fun m => (Classification.ofJson? spelling m.2).map fun c => (m.1, c)
  return Keyed.putAll Prod.fst [] pairs

namespace ModuleDocument

def ofMembers? (spelling : Spelling) (ms : Members) : Option ModuleDocument := do
  let id ← required ["id"] asString ms
  let uses ← withDefault ["uses"] [] (asList asString) ms
  let references ← withDefault ["references"] [] (asList Reference.ofJson?) ms
  let policies ← withDefault ["policies"] [] asMembers ms
  let weekends ← withDefault ["weekends"] [] (asList asWeekday) policies
  let sources ← withDefault ["event_sources"] [] (asList (EventSource.ofJson? spelling)) ms
  return { id, uses, references, weekends, sources }

def toJson (m : ModuleDocument) : Json :=
  .obj [("id", .str m.id), ("uses", ofList .str m.uses),
    ("references", ofList Reference.toJson m.references),
    ("policies", .obj [("weekends", ofList ofWeekday m.weekends)]),
    ("event_sources", ofList EventSource.toJson m.sources)]

def ofJson? (spelling : Spelling) (j : Json) : Option ModuleDocument := do
  ofMembers? spelling (← asMembers j)

end ModuleDocument

namespace CalendarDocument

def ofMembers? (spelling : Spelling) (ms : Members) : Option CalendarDocument := do
  let id ← required ["id"] asString ms
  let metadata ← withDefault ["metadata"] .empty Metadata.ofJson? ms
  let parents ← withDefault ["extends"] [] (asList asString) ms
  let uses ← withDefault ["uses"] [] (asList asString) ms
  let policy ← optional ["weekend_shift_policy"] (ShiftPolicy.ofJson? spelling) ms
  let sources ← withDefault ["event_sources"] [] (asList (EventSource.ofJson? spelling)) ms
  let classifications ← withDefault ["classifications"] [] (asClassifications spelling) ms
  let deltas ← withDefault ["deltas"] [] (asList (Delta.ofJson? spelling)) ms
  return { id, metadata, parents, uses, policy, sources, classifications, deltas }

def toJson (c : CalendarDocument) : Json :=
  .obj (("id", .str c.id) :: ("metadata", c.metadata.toJson) ::
    ("extends", ofList .str c.parents) :: ("uses", ofList .str c.uses) ::
    (ofOption "weekend_shift_policy" ShiftPolicy.toJson c.policy ++
      [("event_sources", ofList EventSource.toJson c.sources),
        ("classifications", ofClassifications c.classifications),
        ("deltas", ofList Delta.toJson c.deltas)]))

def ofJson? (spelling : Spelling) (j : Json) : Option CalendarDocument := do
  ofMembers? spelling (← asMembers j)

end CalendarDocument

namespace Month

def toJson (m : Month) : Json :=
  .obj [("name", .str m.name), ("days", ofUInt32 m.days), ("leap_days", orNull ofUInt32 m.leapDays)]

def ofJson? (j : Json) : Option Month := do
  let ms ← asMembers j
  let name ← required ["name"] asString ms
  let days ← required ["days"] asUInt32 ms
  let leapDays ← optional ["leap_days"] asUInt32 ms
  return { name, days, leapDays }

end Month

namespace ChronologyDefinition

def ofMembers? (spelling : Spelling) (ms : Members) : Option ChronologyDefinition := do
  let id ← required ["id"] asString ms
  let metadata ← withDefault ["metadata"] [] asMembers ms
  let name ← optional ["name"] asString metadata
  let description ← optional ["description"] asString metadata
  let structure_ ← required ["structure"] asMembers ms
  let epoch ← required ["epoch_pivot"] asInt64 structure_
  let months ← required ["months"] (asList Month.ofJson?) structure_
  let algorithms ← required ["algorithms"] asMembers ms
  let algorithm ←
    required ["type"] (asOneOf AlgorithmKind.all AlgorithmKind.text spelling) algorithms
  let leapFormula ← optional ["leap_year"] asString algorithms
  return { id, name, description, epoch, months, algorithm, leapFormula }

/-- What is absent here is written as null. -/
def toJson (d : ChronologyDefinition) : Json :=
  .obj [("id", .str d.id),
    ("metadata", .obj [("name", orNull .str d.name), ("description", orNull .str d.description)]),
    ("structure", .obj [("epoch_pivot", ofInt64 d.epoch),
      ("months", ofList Month.toJson d.months)]),
    ("algorithms", .obj [("type", .str d.algorithm.text),
      ("leap_year", orNull .str d.leapFormula)])]

def ofJson? (spelling : Spelling) (j : Json) : Option ChronologyDefinition := do
  ofMembers? spelling (← asMembers j)

end ChronologyDefinition

namespace Specification

def toJson (s : Specification) : Json :=
  .obj [("id", .str s.id), ("metadata", s.metadata.toJson),
    ("weekend_days", ofList ofWeekday s.weekend.toList),
    ("weekend_shift_policy", s.policy.toJson),
    ("references", ofList Reference.toJson s.references),
    ("event_sources", ofList EventSource.toJson s.sources),
    ("classifications", ofClassifications s.classifications),
    ("deltas", ofList Delta.toJson s.deltas), ("resolution_chain", ofList .str s.chain)]

def ofJson? (spelling : Spelling) (j : Json) : Option Specification := do
  let ms ← asMembers j
  let id ← required ["id"] asString ms
  let metadata ← required ["metadata"] Metadata.ofJson? ms
  let weekend ← required ["weekend_days"] (asList asWeekday) ms
  let policy ← required ["weekend_shift_policy"] (ShiftPolicy.ofJson? spelling) ms
  let references ← required ["references"] (asList Reference.ofJson?) ms
  let sources ← required ["event_sources"] (asList (EventSource.ofJson? spelling)) ms
  let classifications ← required ["classifications"] (asClassifications spelling) ms
  let deltas ← required ["deltas"] (asList (Delta.ofJson? spelling)) ms
  let chain ← required ["resolution_chain"] (asList asString) ms
  return { id, metadata, weekend := Weekend.ofList weekend, policy, references, sources
           classifications, deltas, chain }

end Specification

namespace Document

def kindNames : List String := ["calendar", "module", "chronology"]

def ofJson? (j : Json) : Option Document := do
  let ms ← asMembers j
  match ← required ["kind"] (asTag .loose kindNames) ms with
  | "calendar" => return .calendar (← CalendarDocument.ofMembers? .loose ms)
  | "module" => return .module (← ModuleDocument.ofMembers? .loose ms)
  | "chronology" => return .chronology (← ChronologyDefinition.ofMembers? .loose ms)
  | _ => none

def listOfJson? : Json → Option (List Document)
  | .arr items => items.mapM ofJson?
  | j => (ofJson? j).map ([·])

inductive TextFault where
  | notJson
  | noDocument
deriving DecidableEq, Repr

/-- The documents of a text. Whether a value is a document is asked before what follows it is
looked at. -/
def parse (text : String) : Except TextFault (List Document) :=
  match Json.front? text.toList with
  | none => .error .notJson
  | some (j, rest) =>
    match listOfJson? j with
    | none => .error .noDocument
    | some documents => if dropBlanks rest = [] then .ok documents else .error .notJson

end Document

end Holidays
