import Holidays.Document.RuleJson
import Holidays.Generation.Occurrence
import Holidays.Json.Writer

namespace Holidays

open Json

namespace Event

def toJson (e : Event) : Json :=
  .obj [("date", ofDate e.date), ("classification", e.classification.toJson),
    ("description", .str e.description), ("provenance", .str e.provenance)]

def ofJson? (j : Json) : Option Event := do
  let ms ← asMembers j
  let date ← required ["date"] asDate ms
  let classification ← required ["classification"] (Classification.ofJson? .strict) ms
  let description ← required ["description"] asString ms
  let provenance ← required ["provenance"] asString ms
  return { date, classification, description, provenance }

def render (events : List Event) (pretty : Bool) : String :=
  let j := ofList toJson events
  if pretty then j.pretty else j.compact

end Event

namespace Occurrence

def ofJson? (j : Json) : Option Occurrence := do
  let ms ← asMembers j
  let key ← required ["key"] asString ms
  let date ← required ["date"] asDate ms
  let name ← required ["name"] asString ms
  let provenance ← required ["provenance"] asString ms
  return { key, date, name, provenance }

end Occurrence

end Holidays
