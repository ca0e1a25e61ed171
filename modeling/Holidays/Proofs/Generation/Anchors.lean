import Holidays.Proofs.Generation.RuleWindow

namespace Holidays

theorem exists_seekWeekday? {weekday : Weekday} {direction : Direction} {date ahead : Date}
    (reached : ahead.weekday = weekday)
    (further : 0 ≤ direction.step * (ahead.number - date.number)) :
    ∃ found, seekWeekday? weekday direction date = some found := by
  fun_induction seekWeekday? weekday direction date with
  | case1 date => exact ⟨date, rfl⟩
  | case2 date other stuck =>
    -- A step towards a date stays between dates, so it can be made.
    have apart : ahead.number ≠ date.number :=
      fun same => other (Date.ext_number same ▸ reached)
    have outside := Date.addDays?_eq_none stuck
    have here := date.number_bounds
    have there := ahead.number_bounds
    cases direction <;> simp only [Direction.step] at * <;> omega
  | case3 date other next stepped ih =>
    have apart : ahead.number ≠ date.number :=
      fun same => other (Date.ext_number same ▸ reached)
    rw [Date.addDays?_eq_some_iff] at stepped
    apply ih
    cases direction <;> simp only [Direction.step] at * <;> omega

namespace Offset

/-- What an offset of a date is: so many days from it, or the given weekday in the `nth` week
strictly before or after it. -/
def Leads (offset : Offset) (a d : Date) : Prop :=
  match offset with
  | .days count => d.number = a.number + count.toInt
  | .weekday w =>
    d.weekday = w.weekday ∧
      7 * ((w.nth.toNat : Int) - 1) < w.direction.step * (d.number - a.number) ∧
      w.direction.step * (d.number - a.number) ≤ 7 * w.nth.toNat

instance (offset : Offset) (a d : Date) : Decidable (offset.Leads a d) :=
  match offset with
  | .days _ => inferInstanceAs (Decidable (_ = _))
  | .weekday _ => inferInstanceAs (Decidable (_ ∧ _ ∧ _))

def Valid : Offset → Prop
  | .days _ => True
  | .weekday w => 1 ≤ w.nth.toNat

theorem valid_of_select {source : String} {days : Option Int64} {weekday : Option WeekdayOffset}
    {offset : Offset} (h : select source days weekday = .ok offset) : offset.Valid := by
  unfold select at h
  split at h
  · cases h
    trivial
  · next w =>
    split at h
    · cases h
    · next counted =>
      cases h
      exact Nat.one_le_iff_ne_zero.mpr fun zero => counted (UInt32.toNat_inj.mp zero)
  · cases h

theorem leads_of_weekdaySearch? {w : WeekdayOffset} {a d : Date} (counted : 1 ≤ w.nth.toNat)
    (h : weekdaySearch? a w = some d) : (weekday w).Leads a d := by
  obtain ⟨weekday, nth, direction⟩ := w
  simp only [weekdaySearch?, Option.bind_eq_bind, Option.bind_eq_some_iff] at h
  obtain ⟨next, stepped, nearest, sought, moved⟩ := h
  have within := seekWeekday?_number sought
  rw [Date.addDays?_eq_some_iff] at stepped moved
  simp only [Leads, Date.weekday, Weekday.ofMonday_eq_iff]
  have bound := Weekday.index_lt weekday
  cases direction <;> simp only [Direction.step] at * <;> omega

theorem weekdaySearch?_of_leads {w : WeekdayOffset} {a d : Date} (counted : 1 ≤ w.nth.toNat)
    (h : (weekday w).Leads a d) : weekdaySearch? a w = some d := by
  obtain ⟨weekday, nth, direction⟩ := w
  obtain ⟨reached, near, far⟩ := h
  have here := a.number_bounds
  have there := d.number_bounds
  -- No date is missing between the anchor and the other date, so no step of the search fails.
  obtain ⟨next, stepped⟩ : ∃ next, a.addDays? direction.step = some next := by
    apply Date.exists_addDays? <;> cases direction <;> simp only [Direction.step] at * <;> omega
  have start := Date.addDays?_eq_some_iff.mp stepped
  obtain ⟨nearest, sought⟩ : ∃ nearest, seekWeekday? weekday direction next = some nearest := by
    apply exists_seekWeekday? reached
    cases direction <;> simp only [Direction.step] at * <;> omega
  have within := seekWeekday?_number sought
  -- What is found and the date have one weekday, and the weeks left are less than one apart.
  have moved : nearest.addDays? (direction.step * 7 * (nth.toNat - 1 : Nat)) = some d := by
    rw [Date.addDays?_eq_some_iff]
    simp only [Date.weekday, Weekday.ofMonday_eq_iff] at reached
    cases direction <;> simp only [Direction.step] at * <;> omega
  simp only [weekdaySearch?, stepped, sought, Option.bind_eq_bind, Option.bind_some, moved]

theorem from?_eq_some_iff {offset : Offset} (valid : offset.Valid) {a d : Date} :
    offset.from? a = some d ↔ offset.Leads a d := by
  cases offset with
  | days count => exact Date.addDays?_eq_some_iff
  | weekday w => exact ⟨leads_of_weekdaySearch? valid, weekdaySearch?_of_leads valid⟩

/-- Offsets keep the order of dates that are a week or more apart. -/
theorem Leads.lt {offset : Offset} {a b d e : Date} (apart : a.number + 7 ≤ b.number)
    (hd : offset.Leads a d) (he : offset.Leads b e) : d < e := by
  show d.number < e.number
  cases offset with
  | days count =>
    simp only [Leads] at hd he
    omega
  | weekday w =>
    obtain ⟨-, near, far⟩ := hd
    obtain ⟨-, near', far'⟩ := he
    cases direction : w.direction <;> simp only [direction, Direction.step] at * <;> omega

def Short : Offset → Prop
  | .days count => -365 ≤ count.toInt ∧ count.toInt ≤ 365
  | .weekday w => w.nth.toNat ≤ 52

theorem Leads.near {offset : Offset} {a d : Date} (short : offset.Short) (h : offset.Leads a d) :
    a.number ≤ d.number + 365 ∧ d.number ≤ a.number + 365 := by
  cases offset with
  | days count =>
    simp only [Short, Leads] at short h
    omega
  | weekday w =>
    obtain ⟨-, near, far⟩ := h
    simp only [Short] at short
    cases direction : w.direction <;> simp only [direction, Direction.step] at * <;> omega

end Offset

namespace MonthDay

def dateIn? (anchor : MonthDay) (year : Int) : Option Date :=
  Date.ofYmd? year anchor.month.toNat anchor.day.toNat

theorem daysBefore_near {month : Nat} (low : 1 ≤ month) (high : month ≤ 12) (leap other : Bool) :
    MonthTable.daysBefore (Civil.monthLengths leap) month ≤
      MonthTable.daysBefore (Civil.monthLengths other) month + 1 := by
  cases leap <;> cases other <;> interval_cases month <;> decide

theorem dateIn?_apart {anchor : MonthDay} {y z : Int} {a b : Date} (earlier : y < z)
    (ha : anchor.dateIn? y = some a) (hb : anchor.dateIn? z = some b) :
    a.number + 364 ≤ b.number := by
  obtain ⟨has, number⟩ := Date.number_of_ofYmd? ha
  obtain ⟨-, number'⟩ := Date.number_of_ofYmd? hb
  have months := has.month_bounds
  have near := daysBefore_near months.1 months.2 (Civil.isLeap y) (Civil.isLeap z)
  have next : Civil.yearStart y + 365 ≤ Civil.yearStart (y + 1) := by
    simp only [Civil.yearStart]
    omega
  have later := Civil.yearStart_mono (y := y + 1) (z := z) (by omega)
  simp only [Civil.numberOf] at number number'
  omega

theorem leads_lt {offset : Offset} {anchor : MonthDay} {y z : Int} {a b d e : Date}
    (earlier : y < z) (ha : anchor.dateIn? y = some a) (hb : anchor.dateIn? z = some b)
    (hd : offset.Leads a d) (he : offset.Leads b e) : d < e := by
  have apart := dateIn?_apart earlier ha hb
  exact hd.lt (by omega) he

theorem year_of_leads {offset : Offset} {anchor : MonthDay} {y z : Int} {a b d : Date}
    (ha : anchor.dateIn? y = some a) (hb : anchor.dateIn? z = some b) (hd : offset.Leads a d)
    (he : offset.Leads b d) : y = z := by
  rcases Int.lt_trichotomy y z with less | same | greater
  · exact absurd (leads_lt less ha hb hd he) (Int.lt_irrefl _)
  · exact same
  · exact absurd (leads_lt greater hb ha he hd) (Int.lt_irrefl _)

end MonthDay

namespace Expander

variable {x : Expander} {source : EventSource} {anchor : MonthDay} {days : Option Int64}
  {weekday : Option WeekdayOffset} {offset : Offset}

/-- No date of a range is missing, from whatever year its anchor is. -/
def MissesNone (x : Expander) (source : EventSource) (anchor : MonthDay) (offset : Offset) :
    Prop :=
  ∀ range provenance, ∃ os, x.expand source range provenance = .ok os ∧
    ∀ year a d, anchor.dateIn? year = some a → offset.Leads a d → range.Contains d →
      d ∈ os.map Occurrence.date

def anchored (anchor : MonthDay) (offset : Offset) (range : DateRange) : List Date :=
  (((ReferenceDates.yearsAround range).filterMap anchor.dateIn?).filterMap offset.from?).filter
    fun d => range.Contains d

theorem expand_eq_anchored (relative : source.rule = .relative none (some anchor) days weekday)
    (chosen : Offset.select source.key days weekday = .ok offset) (range : DateRange)
    (provenance : String) :
    x.expand source range provenance =
      .ok ((anchored anchor offset range).map fun d =>
        ⟨source.key, d, source.name, provenance⟩) := by
  simp only [expand, dates, relative, chosen, anchors, bind, Except.bind, pure, Except.pure,
    List.map_map]
  rfl

theorem mem_anchored (valid : offset.Valid) {range : DateRange} {d : Date} :
    d ∈ anchored anchor offset range ↔ range.Contains d ∧ ∃ year a,
      (range.first.year - 1 ≤ year ∧ year ≤ range.last.year + 1) ∧
        anchor.dateIn? year = some a ∧ offset.Leads a d := by
  simp only [anchored, ReferenceDates.yearsAround, List.mem_filter, List.mem_filterMap, mem_span,
    decide_eq_true_eq, Offset.from?_eq_some_iff valid]
  constructor
  · rintro ⟨⟨a, ⟨year, around, dated⟩, leads⟩, inside⟩
    exact ⟨inside, year, a, around, dated, leads⟩
  · rintro ⟨inside, year, a, around, dated, leads⟩
    exact ⟨⟨a, ⟨year, around, dated⟩, leads⟩, inside⟩

theorem anchored_pairwise (valid : offset.Valid) (range : DateRange) :
    (anchored anchor offset range).Pairwise (· < ·) := by
  rw [anchored, List.filterMap_filterMap]
  apply List.Pairwise.filter
  apply (span_pairwise _ _).filterMap
  intro y z earlier d hd e he
  obtain ⟨a, dated, moved⟩ := Option.bind_eq_some_iff.mp hd
  obtain ⟨b, dated', moved'⟩ := Option.bind_eq_some_iff.mp he
  rw [Offset.from?_eq_some_iff valid] at moved moved'
  exact MonthDay.leads_lt earlier dated dated' moved moved'

theorem missesNone_iff (relative : source.rule = .relative none (some anchor) days weekday)
    (chosen : Offset.select source.key days weekday = .ok offset) :
    x.MissesNone source anchor offset ↔
      ∀ year a d, anchor.dateIn? year = some a → offset.Leads a d →
        d.year - 1 ≤ year ∧ year ≤ d.year + 1 := by
  have valid := Offset.valid_of_select chosen
  have dates (os : List Date) (provenance : String) :
      (os.map fun d => (⟨source.key, d, source.name, provenance⟩ : Occurrence)).map
        Occurrence.date = os := by
    rw [List.map_map]
    exact List.map_id os
  constructor
  · intro complete year a d dated leads
    -- The date is found over its own day alone, and no other year leads to it.
    obtain ⟨os, expanded, all⟩ := complete ⟨d, d, Int.le_refl _⟩ ""
    rw [expand_eq_anchored relative chosen] at expanded
    cases expanded
    have found := all year a d dated leads ⟨Int.le_refl _, Int.le_refl _⟩
    rw [dates, mem_anchored valid] at found
    obtain ⟨-, year', a', around, dated', leads'⟩ := found
    have same := MonthDay.year_of_leads dated' dated leads' leads
    exact same ▸ around
  · intro beside range provenance
    refine ⟨_, expand_eq_anchored relative chosen range provenance, ?_⟩
    intro year a d dated leads inside
    rw [dates, mem_anchored valid]
    have here := beside year a d dated leads
    have first := Date.year_mono inside.1
    have last := Date.year_mono inside.2
    exact ⟨inside, year, a, by omega, dated, leads⟩

/-- A rule with a fixed anchor gives, in order, the dates of a range that are the offset of an
anchor in a year of the range or next to it. It misses none exactly where no offset leads further
than into the next year or the one before, as 365 days or 52 weekdays never do. -/
theorem expand_anchored (relative : source.rule = .relative none (some anchor) days weekday)
    (chosen : Offset.select source.key days weekday = .ok offset) :
    (∀ range provenance, ∃ ds : List Date,
      x.expand source range provenance =
          .ok (ds.map fun d => ⟨source.key, d, source.name, provenance⟩) ∧
        ds.Pairwise (· < ·) ∧
        ∀ d, d ∈ ds ↔ range.Contains d ∧ ∃ year a,
          (range.first.year - 1 ≤ year ∧ year ≤ range.last.year + 1) ∧
            anchor.dateIn? year = some a ∧ offset.Leads a d) ∧
    (x.MissesNone source anchor offset ↔
      ∀ year a d, anchor.dateIn? year = some a → offset.Leads a d →
        d.year - 1 ≤ year ∧ year ≤ d.year + 1) ∧
    (offset.Short → x.MissesNone source anchor offset) := by
  have valid := Offset.valid_of_select chosen
  refine ⟨?_, missesNone_iff relative chosen, ?_⟩
  · intro range provenance
    exact ⟨_, expand_eq_anchored relative chosen range provenance, anchored_pairwise valid range,
      fun d => mem_anchored valid⟩
  · intro short
    rw [missesNone_iff relative chosen]
    intro year a d dated leads
    have reach := leads.near short
    have home : a.year = year := Date.year_of_ofYmd? dated
    have := Date.year_le_succ reach.1
    have := Date.year_le_succ reach.2
    omega

def withoutReferences : Expander := ⟨.defaults, none, CalendarSystem.civilId⟩

def fourthSunday : WeekdayOffset := ⟨.sun, 4, .before⟩

def advent : EventSource where
  key := "advent"
  name := "First Sunday of Advent"
  rule := .relative none (some ⟨12, 25⟩) none (some fourthSunday)
  classification := none
  shiftable := none
  activeYears := none

/-- 2024-12-01. -/
def adventSunday : Date := (Date.ofNumber? 739221).getD .first

theorem expand_anchored_advent :
    withoutReferences.MissesNone advent ⟨12, 25⟩ (.weekday fourthSunday) ∧
    ∃ os, withoutReferences.expand advent ⟨adventSunday, adventSunday, Int.le_refl _⟩
        "rule:advent" = .ok os ∧
      adventSunday ∈ os.map Occurrence.date := by
  have short : (Offset.weekday fourthSunday).Short := by
    show (4 : UInt32).toNat ≤ 52
    decide
  have complete : withoutReferences.MissesNone advent ⟨12, 25⟩ (.weekday fourthSunday) :=
    (expand_anchored rfl rfl).2.2 short
  obtain ⟨os, expanded, all⟩ :=
    complete ⟨adventSunday, adventSunday, Int.le_refl _⟩ "rule:advent"
  have christmas : MonthDay.dateIn? ⟨12, 25⟩ 2024 =
      some ((Date.ofNumber? 739245).getD .first) :=
    Date.ofYmd?_eq_some_iff.mpr ⟨by decide, by decide, by decide⟩
  exact ⟨complete, os, expanded, all 2024 _ adventSunday christmas (by decide) (by decide)⟩

/-- The 366th day after December 31. -/
def yearLater : EventSource where
  key := "year-later"
  name := "A Year Later"
  rule := .relative none (some ⟨12, 31⟩) (some 366) none
  classification := none
  shiftable := none
  activeYears := none

def newYear2023 : Date := (Date.ofNumber? 738521).getD .first

set_option maxRecDepth 1024 in
/-- Where no leap day follows, 366 days lead from the end of 2021 over all of 2022. -/
theorem expand_anchored_yearLater :
    ¬ ∀ (x : Expander) (source : EventSource) (anchor : MonthDay) (days : Option Int64)
      (weekday : Option WeekdayOffset) (offset : Offset),
      source.rule = .relative none (some anchor) days weekday →
      Offset.select source.key days weekday = .ok offset → x.MissesNone source anchor offset := by
  intro given
  have complete := given withoutReferences yearLater ⟨12, 31⟩ (some 366) none (.days 366) rfl rfl
  obtain ⟨os, expanded, all⟩ := complete ⟨newYear2023, newYear2023, Int.le_refl _⟩ "rule:year-later"
  have nothing : withoutReferences.expand yearLater
      ⟨newYear2023, newYear2023, Int.le_refl _⟩ "rule:year-later" = .ok [] := by decide +kernel
  rw [nothing] at expanded
  cases expanded
  have yearEnd : MonthDay.dateIn? ⟨12, 31⟩ 2021 =
      some ((Date.ofNumber? 738155).getD .first) :=
    Date.ofYmd?_eq_some_iff.mpr ⟨by decide, by decide, by decide⟩
  have found := all 2021 _ newYear2023 yearEnd (by decide) (by decide)
  cases found

end Expander

end Holidays
