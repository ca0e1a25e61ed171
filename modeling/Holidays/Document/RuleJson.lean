import Holidays.Document.Source
import Holidays.Json.Members

/-!
The JSON form of rules, event sources, references and deltas. A field that is absent is left out;
the field `type` or `action` says which shape an object has, and what lies in such an object is
spelled loosely.
-/
namespace Holidays

open Json

def ofDate (d : Date) : Json := .str d.text

def ofWeekday (d : Weekday) : Json := .str d.shortName

def ofUInt32 (n : UInt32) : Json := .int n.toNat

def ofInt32 (n : Int32) : Json := .int n.toInt

def ofInt64 (n : Int64) : Json := .int n.toInt

namespace Classification

def toJson (c : Classification) : Json := .str c.text

def ofJson? (spelling : Spelling) : Json → Option Classification := asOneOf all text spelling

end Classification

namespace ShiftPolicy

def toJson (p : ShiftPolicy) : Json := .str p.text

def ofJson? (spelling : Spelling) : Json → Option ShiftPolicy := asOneOf all text spelling

end ShiftPolicy

namespace NotedDate

def toJson (d : NotedDate) : Json :=
  .obj (("date", ofDate d.date) :: ofOption "comment" .str d.comment)

def ofJson? (j : Json) : Option NotedDate := do
  let ms ← asMembers j
  let date ← required ["date"] asDate ms
  let comment ← optional ["comment"] asString ms
  return { date, comment }

end NotedDate

namespace MonthDay

def toJson (d : MonthDay) : Json := .obj [("month", ofUInt32 d.month), ("day", ofUInt32 d.day)]

def ofJson? (j : Json) : Option MonthDay := do
  let ms ← asMembers j
  let month ← required ["month"] asUInt32 ms
  let day ← required ["day"] asUInt32 ms
  return { month, day }

end MonthDay

namespace WeekdayOffset

def toJson (o : WeekdayOffset) : Json :=
  .obj [("weekday", ofWeekday o.weekday), ("nth", ofUInt32 o.nth),
    ("direction", .str o.direction.text)]

def ofJson? (j : Json) : Option WeekdayOffset := do
  let ms ← asMembers j
  let weekday ← required ["weekday"] asWeekday ms
  let nth ← required ["nth"] asUInt32 ms
  let direction ← required ["direction"] (asOneOf Direction.all Direction.text .loose) ms
  return { weekday, nth, direction }

end WeekdayOffset

namespace Rule

def typeNames : List String :=
  ["explicit_dates", "fixed_month_day", "nth_weekday_of_month", "relative_to_reference"]

def toJson (r : Rule) : Json :=
  .obj (("type", .str r.typeName) :: match r with
    | .explicitDates dates => [("dates", ofList NotedDate.toJson dates)]
    | .fixedMonthDay month day system =>
      ("month", ofUInt32 month) :: ("day", ofUInt32 day) :: ofOption "calendar_system" .str system
    | .nthWeekday month weekday nth =>
      [("month", ofUInt32 month), ("weekday", ofWeekday weekday), ("nth", ofInt32 nth)]
    | .relative reference anchor offsetDays weekdayOffset =>
      ofOption "reference" .str reference ++ (ofOption "anchor" MonthDay.toJson anchor ++
        (ofOption "offset_days" ofInt64 offsetDays ++
          ofOption "weekday_offset" WeekdayOffset.toJson weekdayOffset)))

def ofJson? (spelling : Spelling) (j : Json) : Option Rule := do
  let ms ← asMembers j
  match ← required ["type"] (asTag spelling typeNames) ms with
  | "explicit_dates" =>
    let dates ← required ["dates"] (asList NotedDate.ofJson?) ms
    return .explicitDates dates
  | "fixed_month_day" =>
    let month ← required ["month"] asUInt32 ms
    let day ← required ["day"] asUInt32 ms
    let system ← optional ["calendar_system", "calendar", "calendar-system"] asString ms
    return .fixedMonthDay month day system
  | "nth_weekday_of_month" =>
    let month ← required ["month"] asUInt32 ms
    let weekday ← required ["weekday"] asWeekday ms
    let nth ← required ["nth"] asInt32 ms
    return .nthWeekday month weekday nth
  | "relative_to_reference" =>
    let reference ← optional ["reference"] asString ms
    let anchor ← optional ["anchor"] MonthDay.ofJson? ms
    let offsetDays ← optional ["offset_days"] asInt64 ms
    let weekdayOffset ← optional ["weekday_offset"] WeekdayOffset.ofJson? ms
    return .relative reference anchor offsetDays weekdayOffset
  | _ => none

end Rule

namespace YearRange

def toJson (r : YearRange) : Json :=
  .obj (("start", ofInt32 r.first) :: ofOption "end" ofInt32 r.last)

def ofJson? (j : Json) : Option YearRange := do
  let ms ← asMembers j
  let first ← required ["start"] asInt32 ms
  let last ← optional ["end"] asInt32 ms
  return { first, last }

end YearRange

namespace ActiveYears

def toJson (a : ActiveYears) : Json :=
  .obj (ofOption "start_year" ofInt32 a.first ++ (ofOption "end_year" ofInt32 a.last ++
    (if a.ranges.isEmpty then [] else [("ranges", ofList YearRange.toJson a.ranges)])))

def ofJson? (j : Json) : Option ActiveYears := do
  let ms ← asMembers j
  let first ← optional ["start_year"] asInt32 ms
  let last ← optional ["end_year"] asInt32 ms
  let ranges ← withDefault ["ranges"] [] (asList YearRange.ofJson?) ms
  return { first, last, ranges }

end ActiveYears

namespace EventSource

def toJson (s : EventSource) : Json :=
  .obj (("key", .str s.key) :: ("name", .str s.name) :: ("rule", s.rule.toJson) ::
    (ofOption "default_classification" Classification.toJson s.classification ++
      (ofOption "shiftable" .bool s.shiftable ++
        ofOption "active_years" ActiveYears.toJson s.activeYears)))

def ofJson? (spelling : Spelling) (j : Json) : Option EventSource := do
  let ms ← asMembers j
  let key ← required ["key"] asString ms
  let name ← required ["name"] asString ms
  let rule ← required ["rule"] (Rule.ofJson? spelling) ms
  let classification ← optional ["default_classification"] (Classification.ofJson? spelling) ms
  let shiftable ← optional ["shiftable"] asBool ms
  let activeYears ← optional ["active_years"] ActiveYears.ofJson? ms
  return { key, name, rule, classification, shiftable, activeYears }

end EventSource

namespace Reference

def toJson (r : Reference) : Json := .obj [("key", .str r.key), ("formula", .str r.formula)]

def ofJson? (j : Json) : Option Reference := do
  let ms ← asMembers j
  let key ← required ["key"] asString ms
  let formula ← required ["formula"] asString ms
  return { key, formula }

end Reference

namespace Delta

def actionNames : List String := ["add", "remove", "reclassify"]

def toJson : Delta → Json
  | .add key date name classification =>
    .obj (("action", .str "add") :: ("key", .str key) :: ("date", ofDate date) ::
      (ofOption "name" .str name ++ ofOption "classification" Classification.toJson classification))
  | .remove key date =>
    .obj [("action", .str "remove"), ("key", .str key), ("date", ofDate date)]
  | .reclassify key date classification =>
    .obj [("action", .str "reclassify"), ("key", .str key), ("date", ofDate date),
      ("classification", classification.toJson)]

def ofJson? (spelling : Spelling) (j : Json) : Option Delta := do
  let ms ← asMembers j
  let action ← required ["action"] (asTag spelling actionNames) ms
  let key ← required ["key"] asString ms
  let date ← required ["date"] asDate ms
  match action with
  | "add" =>
    let name ← optional ["name"] asString ms
    let classification ← optional ["classification"] (Classification.ofJson? .loose) ms
    return .add key date name classification
  | "remove" => return .remove key date
  | "reclassify" =>
    let classification ← required ["classification"] (Classification.ofJson? .loose) ms
    return .reclassify key date classification
  | _ => none

end Delta

end Holidays
