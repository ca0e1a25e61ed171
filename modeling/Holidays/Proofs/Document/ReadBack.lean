import Holidays.Document.CalendarJson
import Holidays.Proofs.Document.Fields
import Holidays.Proofs.Keyed

/-!
Every value of the document model is what its JSON form is read as, under either spelling.

The objects are read field by field with the laws of `Fields`. Where a field is a number, the
rewriting steps are recorded one by one (`-implicitDefEqProofs`): left to compare both ends of them
by evaluation, the kernel would count through the bounds of the word.
-/
namespace Holidays

open Json

theorem Classification.inverse (spelling : Spelling) : Inverse toJson (ofJson? spelling) where
  back c := asOneOf_text (by cases c <;> decide) (by decide) spelling
  ne_null _ := by simp [toJson]

theorem ShiftPolicy.inverse (spelling : Spelling) : Inverse toJson (ofJson? spelling) where
  back p := asOneOf_text (by cases p <;> decide) (by decide) spelling
  ne_null _ := by simp [toJson]

theorem NotedDate.inverse : Inverse toJson ofJson? where
  back d := by simp [toJson, ofJson?, inverse_str]
  ne_null _ := by simp [toJson]

theorem MonthDay.inverse : Inverse toJson ofJson? where
  back d := by simp -implicitDefEqProofs [toJson, ofJson?]
  ne_null _ := by simp [toJson]

theorem WeekdayOffset.inverse : Inverse toJson ofJson? where
  back o := by
    have direction : asOneOf Direction.all Direction.text .loose (.str o.direction.text) =
        some o.direction :=
      asOneOf_text (by cases o.direction <;> decide) (by decide) .loose
    simp -implicitDefEqProofs [toJson, ofJson?, direction]
  ne_null _ := by simp [toJson]

theorem Rule.inverse (spelling : Spelling) : Inverse toJson (ofJson? spelling) where
  back r := by
    cases r with
    | explicitDates dates => simp [toJson, ofJson?, typeName, typeNames, NotedDate.inverse]
    | fixedMonthDay month day system =>
      simp -implicitDefEqProofs [toJson, ofJson?, typeName, typeNames, inverse_str]
    | nthWeekday month weekday nth =>
      simp -implicitDefEqProofs [toJson, ofJson?, typeName, typeNames]
    | relative reference anchor offsetDays weekdayOffset =>
      simp -implicitDefEqProofs [toJson, ofJson?, typeName, typeNames, inverse_str, inverse_int64,
        MonthDay.inverse, WeekdayOffset.inverse]
  ne_null _ := by simp [toJson]

theorem YearRange.inverse : Inverse toJson ofJson? where
  back r := by simp -implicitDefEqProofs [toJson, ofJson?, inverse_int32]
  ne_null _ := by simp [toJson]

theorem ActiveYears.inverse : Inverse toJson ofJson? where
  back a := by
    obtain ⟨first, last, ranges⟩ := a
    cases ranges with
    | nil => simp -implicitDefEqProofs [toJson, ofJson?, inverse_int32]
    | cons range ranges =>
      simp -implicitDefEqProofs [toJson, ofJson?, inverse_int32, YearRange.inverse]
  ne_null _ := by simp [toJson]

theorem EventSource.inverse (spelling : Spelling) : Inverse toJson (ofJson? spelling) where
  back s := by
    simp [toJson, ofJson?, (Rule.inverse spelling).back, Classification.inverse, inverse_bool,
      ActiveYears.inverse]
  ne_null _ := by simp [toJson]

theorem Reference.inverse : Inverse toJson ofJson? where
  back r := by simp [toJson, ofJson?]
  ne_null _ := by simp [toJson]

theorem Delta.inverse (spelling : Spelling) : Inverse toJson (ofJson? spelling) where
  back d := by
    cases d with
    | add key date name classification =>
      simp [toJson, ofJson?, actionNames, inverse_str, Classification.inverse]
    | remove key date => simp [toJson, ofJson?, actionNames]
    | reclassify key date classification =>
      simp [toJson, ofJson?, actionNames, (Classification.inverse .loose).back]
  ne_null d := by cases d <;> simp [toJson]

theorem Metadata.inverse : Inverse toJson ofJson? where
  back m := by simp [toJson, members, ofJson?, inverse_str]
  ne_null _ := by simp [toJson]

theorem ModuleDocument.inverse (spelling : Spelling) : Inverse toJson (ofJson? spelling) where
  back m := by
    simp [toJson, ofJson?, ofMembers?, inverse_str, Reference.inverse, inverse_weekday,
      EventSource.inverse]
  ne_null _ := by simp [toJson]

theorem Month.inverse : Inverse toJson ofJson? where
  back m := by simp -implicitDefEqProofs [toJson, ofJson?, inverse_uint32]
  ne_null _ := by simp [toJson]

theorem ChronologyDefinition.inverse (spelling : Spelling) :
    Inverse toJson (ofJson? spelling) where
  back d := by
    have algorithm : asOneOf AlgorithmKind.all AlgorithmKind.text spelling
        (.str d.algorithm.text) = some d.algorithm :=
      asOneOf_text (by cases d.algorithm <;> decide) (by decide) spelling
    simp -implicitDefEqProofs [toJson, ofJson?, ofMembers?, algorithm, inverse_str, Month.inverse]
  ne_null _ := by simp [toJson]

theorem asClassifications_ofClassifications {cs : List (String × Classification)}
    (distinct : (cs.map Prod.fst).Nodup) (spelling : Spelling) :
    asClassifications spelling (ofClassifications cs) = some cs := by
  have back (c : String × Classification) :
      ((Classification.ofJson? spelling c.2.toJson).map fun value => (c.1, value)) = some c := by
    rw [(Classification.inverse spelling).back, Option.map_some]
  have pairs : (cs.map fun c => (c.1, c.2.toJson)).mapM (fun m : String × Json =>
      (Classification.ofJson? spelling m.2).map fun value => (m.1, value)) = some cs :=
    mapM_map_of_back back cs
  have kept : Keyed.putAll Prod.fst [] cs = cs := Keyed.putAll_of_nodup distinct
  simp [asClassifications, ofClassifications, pairs, kept]

theorem CalendarDocument.ofJson?_toJson {c : CalendarDocument}
    (distinct : (c.classifications.map Prod.fst).Nodup) (spelling : Spelling) :
    ofJson? spelling c.toJson = some c := by
  simp [toJson, ofJson?, ofMembers?, inverse_str, Metadata.inverse.back, EventSource.inverse,
    ShiftPolicy.inverse, Delta.inverse, asClassifications_ofClassifications distinct]

theorem Specification.ofJson?_toJson {s : Specification}
    (distinct : (s.classifications.map Prod.fst).Nodup) (spelling : Spelling) :
    ofJson? spelling s.toJson = some s := by
  simp [toJson, ofJson?, inverse_str, inverse_weekday, Metadata.inverse.back, Reference.inverse,
    EventSource.inverse, (ShiftPolicy.inverse spelling).back, Delta.inverse,
    asClassifications_ofClassifications distinct, Weekend.ofList_toList]

/-- Every value of the document model is what its JSON form is read as under `spelling`. The table
of classifications of a calendar or a specification holds each key once. -/
structure Document.ReadsBack (spelling : Spelling) : Prop where
  rule (r : Rule) : Rule.ofJson? spelling r.toJson = some r
  activeYears (a : ActiveYears) : ActiveYears.ofJson? a.toJson = some a
  source (s : EventSource) : EventSource.ofJson? spelling s.toJson = some s
  reference (r : Reference) : Reference.ofJson? r.toJson = some r
  delta (d : Delta) : Delta.ofJson? spelling d.toJson = some d
  metadata (m : Metadata) : Metadata.ofJson? m.toJson = some m
  module (m : ModuleDocument) : ModuleDocument.ofJson? spelling m.toJson = some m
  calendar (c : CalendarDocument) (distinct : (c.classifications.map Prod.fst).Nodup) :
    CalendarDocument.ofJson? spelling c.toJson = some c
  chronology (d : ChronologyDefinition) : ChronologyDefinition.ofJson? spelling d.toJson = some d
  specification (s : Specification) (distinct : (s.classifications.map Prod.fst).Nodup) :
    Specification.ofJson? spelling s.toJson = some s

theorem Document.readsBack (spelling : Spelling) : ReadsBack spelling where
  rule := (Rule.inverse spelling).back
  activeYears := ActiveYears.inverse.back
  source := (EventSource.inverse spelling).back
  reference := Reference.inverse.back
  delta := (Delta.inverse spelling).back
  metadata := Metadata.inverse.back
  module := (ModuleDocument.inverse spelling).back
  calendar _ distinct := CalendarDocument.ofJson?_toJson distinct spelling
  chronology := (ChronologyDefinition.inverse spelling).back
  specification _ distinct := Specification.ofJson?_toJson distinct spelling

theorem Document.readsBack_twoClassifications :
    let table := [("thanksgiving", Classification.closed), ("christmas-eve", .earlyClose)]
    let calendar : CalendarDocument := ⟨"XNYS", ⟨some "Exchange", none, none⟩, [], ["us"],
      some .nearest, [], table, []⟩
    (table.map Prod.fst).Nodup ∧
      CalendarDocument.ofJson? .loose calendar.toJson = some calendar :=
  ⟨by decide, (Document.readsBack .loose).calendar _ (by decide)⟩

end Holidays
