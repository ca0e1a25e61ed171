import Holidays.Proofs.Chronology.RoundTrip
import Holidays.Proofs.Generation.RuleWindow

namespace Holidays

theorem foreignDay_lt {r : Registry} (reachable : r.Reachable) {s : CalendarSystem}
    {month day : Nat} {y z : Int} {a b : Date} (earlier : y < z)
    (ha : foreignDay r s month day y = some a)
    (hb : foreignDay r s month day z = some b) : a < b := by
  have here := inYear_of_foreignDay reachable ha
  have there := inYear_of_foreignDay reachable hb
  by_cases later : b.pivot ≤ a.pivot
  · have := there.mono here later
    omega
  · simp only [Date.pivot] at later
    show a.number < b.number
    omega

section

variable {x : Expander} (reachable : x.registry.Reachable)

include reachable

theorem foreignMonthDay_pairwise {month day : Nat} {system : String} {range : DateRange}
    {dates : List Date} (h : x.foreignMonthDay month day system range = .ok dates) :
    dates.Pairwise (· < ·) := by
  obtain ⟨s, first, last, -, -, -, rfl⟩ := foreignMonthDay_eq_ok h
  apply List.Pairwise.filter
  apply (span_pairwise _ _).filterMap
  intro y z earlier a ha b hb
  exact foreignDay_lt reachable earlier ha hb

/-- The years tried are those that hold the ends of the range; a date between the ends is in one of
them, and in a year between two that are counted a date is found from its pivot. -/
theorem mem_foreignMonthDay_iff {month day : Nat} {system : String} {range : DateRange}
    {dates : List Date} (h : x.foreignMonthDay month day system range = .ok dates) {d : Date} :
    d ∈ dates ↔ range.Contains d ∧
      ∃ e, x.registry.ofCivil d system = .ok e ∧ e.ymd.month = month ∧ e.ymd.day = day := by
  obtain ⟨s, first, last, got, low, high, rfl⟩ := foreignMonthDay_eq_ok h
  obtain ⟨atFirst, -⟩ := (reachable.ofCivil_eq_ok_iff got).mp low
  obtain ⟨atLast, -⟩ := (reachable.ofCivil_eq_ok_iff got).mp high
  simp only [List.mem_filter, List.mem_filterMap, mem_span, foreignDay_eq_some_iff reachable,
    decide_eq_true_eq]
  constructor
  · rintro ⟨⟨year, ⟨above, below⟩, there⟩, inside⟩
    have counts := (CalendarSystem.counts_of_ofPivot? atFirst).between
      (CalendarSystem.counts_of_ofPivot? atLast) above below
    have found : s.ofPivot? d.pivot = some ⟨year, month, day⟩ :=
      CalendarSystem.ofPivot?_eq_some_iff.mpr ⟨counts, there⟩
    exact ⟨inside, ⟨s.id, ⟨year, month, day⟩⟩,
      (reachable.ofCivil_eq_ok_iff got).mpr ⟨found, rfl⟩, rfl, rfl⟩
  · rintro ⟨inside, ⟨system, ymd⟩, converted, rfl, rfl⟩
    obtain ⟨found, -⟩ := (reachable.ofCivil_eq_ok_iff got).mp converted
    have here := CalendarSystem.inYear_of_ofPivot? found
    have above := (CalendarSystem.inYear_of_ofPivot? atFirst).mono here
      (Int.add_le_add_right inside.1 _)
    have below := here.mono (CalendarSystem.inYear_of_ofPivot? atLast)
      (Int.add_le_add_right inside.2 _)
    exact ⟨⟨ymd.year, ⟨above, below⟩, CalendarSystem.toPivot_of_ofPivot? found⟩, inside⟩

theorem foreignDay_gregorian {month day : Nat} {year : Int} :
    foreignDay x.registry .gregorian month day year = Date.ofYmd? year month day := by
  apply Option.ext
  intro d
  rw [foreignDay_eq_some_iff reachable, CalendarSystem.toPivot]
  cases Date.ofYmd? year month day with
  | none => simp
  | some e =>
    simp only [Except.ok.injEq, Option.some.injEq, Date.pivot]
    constructor
    · intro same
      exact Date.ext_number (by omega)
    · rintro rfl
      rfl

theorem ofCivil_civil (d : Date) :
    x.registry.ofCivil d CalendarSystem.civilId = .ok (.civil d) :=
  bind_eq_ok_iff.mpr ⟨d.pivot, reachable.toPivot_civil d, reachable.ofPivot_pivot d⟩

theorem exists_foreignMonthDay_civil (month day : Nat) (range : DateRange) :
    ∃ dates, x.foreignMonthDay month day CalendarSystem.civilId range = .ok dates := by
  -- The years tried are those of the range, and none of their days lies beyond the last date.
  have each : ∀ year ∈ range.years, ∃ found,
      (if CalendarSystem.gregorian.HasDay ⟨year, month, day⟩ then chronologically do
        let pivot ← CalendarSystem.gregorian.toPivot ⟨year, month, day⟩
        let civil ← x.registry.ofPivot CalendarSystem.civilId pivot
        return civil.toDate?
      else .ok none) = .ok found := by
    intro year member
    obtain ⟨above, below⟩ := mem_span.mp member
    split
    · next has =>
      obtain ⟨d, named⟩ := Date.exists_ofYmd? (Int.le_trans range.first.year_bounds.1 above)
        (Int.le_trans below range.last.year_bounds.2) has
      refine ⟨some d, ?_⟩
      simp [CalendarSystem.toPivot, named, reachable.ofPivot_pivot, Registry.toDate?_civil,
        chronologically, bind, Except.bind, pure, Except.pure]
    · exact ⟨none, rfl⟩
  obtain ⟨found, walked⟩ := exists_mapM_eq_ok each
  simp only [Expander.foreignMonthDay, bind_eq_ok_iff, chronologically_eq_ok_iff]
  exact ⟨_, .gregorian, reachable.get_civil, .civil range.first, ofCivil_civil reachable _,
    .civil range.last, ofCivil_civil reachable _, found, walked, rfl⟩

theorem foreignMonthDay_civil (month day : Nat) (range : DateRange) :
    x.foreignMonthDay month day CalendarSystem.civilId range =
      .ok ((range.years.filterMap fun year => Date.ofYmd? year month day).filter
        fun d => range.Contains d) := by
  obtain ⟨dates, expanded⟩ := exists_foreignMonthDay_civil reachable month day range
  obtain ⟨s, first, last, got, low, high, rfl⟩ := foreignMonthDay_eq_ok expanded
  rw [reachable.get_civil] at got
  rw [ofCivil_civil reachable] at low high
  cases got
  cases low
  cases high
  rw [expanded]
  congr 3
  funext year
  exact foreignDay_gregorian reachable

theorem fixedMonthDay_eq_foreignMonthDay (month day : Nat) (system : String) (range : DateRange) :
    x.fixedMonthDay month day system range = x.foreignMonthDay month day system range := by
  unfold Expander.fixedMonthDay
  split
  · next civil => rw [civil, foreignMonthDay_civil reachable]
  · rfl

theorem expand_fixedMonthDay_eq_ok {source : EventSource} {month day : UInt32}
    {named : Option String} (ruled : source.rule = .fixedMonthDay month day named)
    {range : DateRange} {provenance : String} {found : List Occurrence}
    (expanded : x.expand source range provenance = .ok found) :
    x.foreignMonthDay month.toNat day.toNat (named.getD x.defaultSystem) range =
      .ok (found.map Occurrence.date) := by
  simp only [Expander.expand, Expander.dates, ruled, bind_eq_ok_iff, pure_eq_ok_iff] at expanded
  obtain ⟨-, ⟨dates, walked, rfl⟩, rfl⟩ := expanded
  rw [← fixedMonthDay_eq_foreignMonthDay reachable, walked, List.map_map, List.map_map]
  exact congrArg Except.ok (List.map_id dates).symm

/-- Whenever a rule with a fixed month and day is expanded, its occurrences are dated in strictly
ascending order, on just those days of the range that the system calls by this month and day. -/
theorem Expander.expand_fixedMonthDay {source : EventSource} {month day : UInt32}
    {named : Option String} (ruled : source.rule = .fixedMonthDay month day named)
    {range : DateRange} {provenance : String} {found : List Occurrence}
    (expanded : x.expand source range provenance = .ok found) :
    (found.map Occurrence.date).Pairwise (· < ·) ∧
    (∀ d, d ∈ found.map Occurrence.date ↔ range.Contains d ∧
      ∃ e, x.registry.ofCivil d (named.getD x.defaultSystem) = .ok e ∧
        e.ymd.month = month.toNat ∧ e.ymd.day = day.toNat) ∧
    x.fixedMonthDay month.toNat day.toNat CalendarSystem.civilId range =
      x.foreignMonthDay month.toNat day.toNat CalendarSystem.civilId range := by
  have walked := expand_fixedMonthDay_eq_ok reachable ruled expanded
  refine ⟨foreignMonthDay_pairwise reachable walked, ?_, ?_⟩
  · intro d
    exact mem_foreignMonthDay_iff reachable walked
  · exact fixedMonthDay_eq_foreignMonthDay reachable _ _ _ _

end

def islamicNewYear : EventSource :=
  ⟨"new-year", "New Year", .fixedMonthDay 1 1 (some CalendarSystem.islamicId), none, none, none⟩

def dayOf2008 (n : Nat) : Date := (Date.ofNumber? (733042 + n)).getD .first

set_option maxRecDepth 1024 in
/-- An Islamic year is shorter than a civil one: two begin in 2008. -/
theorem Expander.expand_fixedMonthDay_twice :
    (Expander.mk .defaults none CalendarSystem.civilId).expand islamicNewYear
      ⟨dayOf2008 0, dayOf2008 365, by decide⟩ "rule" =
      .ok [⟨"new-year", dayOf2008 9, "New Year", "rule"⟩,
        ⟨"new-year", dayOf2008 363, "New Year", "rule"⟩] ∧
    dayOf2008 9 < dayOf2008 363 ∧
    ∃ e, Registry.defaults.ofCivil (dayOf2008 363) CalendarSystem.islamicId = .ok e ∧
      e.ymd.month = 1 ∧ e.ymd.day = 1 := by
  have expanded : (Expander.mk .defaults none CalendarSystem.civilId).expand islamicNewYear
      ⟨dayOf2008 0, dayOf2008 365, by decide⟩ "rule" =
      .ok [⟨"new-year", dayOf2008 9, "New Year", "rule"⟩,
        ⟨"new-year", dayOf2008 363, "New Year", "rule"⟩] := by decide +kernel
  obtain ⟨ascending, onDates, -⟩ := Expander.expand_fixedMonthDay .defaults rfl expanded
  have named := (onDates (dayOf2008 363)).mp (by simp)
  exact ⟨expanded, List.rel_of_pairwise_cons ascending (by simp), named.2⟩

end Holidays
