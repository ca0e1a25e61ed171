import Holidays.Proofs.Generation.Finish
import Holidays.Proofs.Generation.RuleWindow

/-!
Events of a part of a range. Where holidays stay or move to the nearest business day, each one is
observed by itself and at most a week away, so the padding of seven days shows every occurrence that
can matter: the events of a narrower range are those of a wider one, cut to it.
-/
namespace Holidays

def Occurrence.observedOn (o : Occurrence) (d : Date) : Occurrence :=
  if d = o.date then o
  else { o with date := d, provenance := o.provenance ++ ";observed-from=" ++ o.date.text }

@[simp] theorem Occurrence.date_observedOn (o : Occurrence) (d : Date) :
    (o.observedOn d).date = d := by
  unfold observedOn
  split
  · next same => exact same.symm
  · rfl

namespace Observance

theorem filter_move? (range : DateRange) (o : Occurrence) (target : Option Date) :
    (move? range o target).filter (fun o => range.Contains o.date) =
      (target.filter fun d => range.Contains d).map o.observedOn := by
  cases target with
  | none => rfl
  | some d =>
    by_cases same : d = o.date
    · subst same
      by_cases inside : range.Contains o.date <;>
        simp [move?, Occurrence.observedOn, Option.filter_some, inside]
    · by_cases inside : range.Contains d <;>
        simp [move?, Occurrence.observedOn, Option.filter_some, same, inside]

theorem nearest?_near {weekend : Weekend} {d target : Date} (h : nearest? weekend d = some target) :
    d.number - 7 ≤ target.number ∧ target.number ≤ d.number + 7 := by
  unfold nearest? at h
  split at h
  · obtain ⟨distance, listed, found⟩ := List.exists_of_findSome?_eq_some h
    have candidate := List.mem_of_find?_eq_some found
    rw [mem_span] at listed
    simp only [List.mem_filterMap, List.mem_cons, List.not_mem_nil, or_false, id_eq] at candidate
    obtain ⟨c, rfl | rfl, moved⟩ := candidate
    · rw [Date.addDays?_eq_some_iff] at moved
      omega
    · rw [Date.addDays?_eq_some_iff] at moved
      omega
  · cases h
    omega

end Observance

namespace Specification

def observeAlone (s : Specification) (range : DateRange) (o : Occurrence) : Option Occurrence :=
  if s.policy = .none then some o
  else if s.shiftableKeys.contains o.key || !s.weekend.covers o.date then
    Observance.move? range o (Observance.nearest? s.weekend o.date)
  else none

theorem apply_eq_filterMap {s : Specification} (policy : s.policy ≠ .nextAvailable)
    (range : DateRange) (os : List Occurrence) :
    Observance.apply s.policy s.weekend s.shiftableKeys range os =
      os.filterMap (s.observeAlone range) := by
  cases chosen : s.policy with
  | none =>
    have alone : s.observeAlone range = some := by
      funext o
      simp [observeAlone, chosen]
    rw [alone, List.filterMap_some]
    rfl
  | nearest =>
    have other : ¬ ShiftPolicy.nearest = ShiftPolicy.none := by decide
    rw [Observance.apply, if_neg other]
    simp only [Observance.targets, List.map_map]
    rw [← List.map_prod_left_eq_zip, List.filterMap_map, List.filterMap_filter]
    apply List.filterMap_congr
    intro o _
    simp [observeAlone, chosen]
  | nextAvailable => exact absurd chosen policy

def dayAlone (s : Specification) (o : Occurrence) : Option Date :=
  if s.policy = .none then some o.date
  else if s.shiftableKeys.contains o.key || !s.weekend.covers o.date then
    Observance.nearest? s.weekend o.date
  else none

theorem observed_eq_filterMap {s : Specification} (policy : s.policy ≠ .nextAvailable)
    (range : DateRange) (os : List Occurrence) :
    s.observed range os = os.filterMap fun o =>
      ((s.dayAlone o).filter fun d => range.Contains d).map o.observedOn := by
  rw [observed, apply_eq_filterMap policy, List.filter_filterMap]
  apply List.filterMap_congr
  intro o _
  unfold observeAlone dayAlone
  split
  · by_cases inside : range.Contains o.date <;>
      simp [Option.filter_some, inside, Occurrence.observedOn]
  · split
    · exact Observance.filter_move? range o _
    · rfl

theorem dayAlone_near {s : Specification} {range : DateRange} {o : Occurrence} {d : Date}
    (h : s.dayAlone o = some d) (inside : range.Contains d) :
    (s.expansionRange range).Contains o.date := by
  unfold dayAlone at h
  unfold expansionRange
  split at h
  · next stays =>
    cases h
    rwa [if_pos stays]
  · next moves =>
    rw [if_neg moves, DateRange.mem_widen]
    obtain ⟨low, high⟩ := inside
    have low : range.first.number ≤ d.number := low
    have high : d.number ≤ range.last.number := high
    split at h
    · have := Observance.nearest?_near h
      simp only [shiftPadding]
      omega
    · cases h

/-- What is observed in the narrower range comes from occurrences that its own expansion has. -/
theorem observed_within {s : Specification} (policy : s.policy ≠ .nextAvailable)
    {inner outer : DateRange} (within : inner.Within outer) {narrow wide : List Occurrence}
    (cut : narrow = wide.filter fun o => (s.expansionRange inner).Contains o.date) :
    s.observed inner narrow =
      (s.observed outer wide).filter fun o => inner.Contains o.date := by
  rw [observed_eq_filterMap policy, observed_eq_filterMap policy, cut, List.filterMap_filter,
    List.filter_filterMap]
  apply List.filterMap_congr
  intro o _
  cases day : s.dayAlone o with
  | none => simp
  | some d =>
    by_cases inside : inner.Contains d
    · simp [Option.filter_some, inside, within.contains inside, dayAlone_near day inside]
    · by_cases outside : outer.Contains d <;> simp [Option.filter_some, inside, outside]

theorem generate_eq_ok_iff {s : Specification} {registry : Registry} {first last : Date}
    (ordered : first ≤ last) {events : List Event} :
    s.generate registry first last = .ok events ↔
      s.validate registry = .ok () ∧
      ∃ os, s.expand registry (s.expansionRange ⟨first, last, ordered⟩) = .ok os ∧
        s.finish ⟨first, last, ordered⟩ os = events := by
  simp only [generate, DateRange.of_eq_ok ordered, bind_eq_ok_iff, pure_eq_ok_iff]
  constructor
  · rintro ⟨_, valid, rest⟩
    exact ⟨valid, rest⟩
  · rintro ⟨valid, rest⟩
    exact ⟨(), valid, rest⟩

theorem generate_eq_error_iff {s : Specification} {registry : Registry} {first last : Date}
    (ordered : first ≤ last) {e : GenerationError} :
    s.generate registry first last = .error e ↔ s.validate registry = .error e ∨
      s.validate registry = .ok () ∧
        s.expand registry (s.expansionRange ⟨first, last, ordered⟩) = .error e := by
  simp only [generate, DateRange.of_eq_ok ordered]
  cases s.validate registry with
  | error e' => simp [bind, Except.bind]
  | ok _ =>
    cases s.expand registry (s.expansionRange ⟨first, last, ordered⟩) <;>
      simp [bind, Except.bind, pure, Except.pure]

theorem generate_inverted {first last : Date} (inverted : ¬ first ≤ last) (s : Specification)
    (registry : Registry) : s.generate registry first last = .error (.range ⟨first, last⟩) := by
  rw [generate, DateRange.of, dif_neg inverted]

theorem expand_eq_ok_iff {s : Specification} {registry : Registry} {range : DateRange}
    {os : List Occurrence} :
    s.expand registry range = .ok os ↔
      ∃ table lists, ReferenceDates.ofReferences registry range s.references = .ok table ∧
        s.sources.mapM (expandSource ⟨registry, some table, s.system⟩ range) = .ok lists ∧
        lists.flatten = os := by
  simp only [expand, bind_eq_ok_iff, pure_eq_ok_iff]
  exact ⟨fun ⟨table, dated, lists, walked, same⟩ => ⟨table, lists, dated, walked, same⟩,
    fun ⟨table, lists, dated, walked, same⟩ => ⟨table, dated, lists, walked, same⟩⟩

end Specification

theorem Expanders.expandSource_within {inner outer : DateRange} (x : Expanders inner outer)
    {source : EventSource} (near : source.rule.StaysNear) {narrow wide : List Occurrence}
    (hn : Specification.expandSource x.inside inner source = .ok narrow)
    (hw : Specification.expandSource x.outside outer source = .ok wide) :
    narrow = wide.filter fun o => inner.Contains o.date := by
  simp only [Specification.expandSource, Expander.expand, bind_eq_ok_iff, pure_eq_ok_iff] at hn hw
  obtain ⟨named, ⟨dates, dated, rfl⟩, rfl⟩ := hn
  obtain ⟨named', ⟨dates', dated', rfl⟩, rfl⟩ := hw
  rw [x.dates_within near dated dated', List.filter_filter, List.filter_map, List.filter_map,
    List.filter_filter]
  congr 1
  exact List.filter_congr fun d _ => Bool.and_comm _ _

namespace Specification

theorem expand_within {s : Specification} {registry : Registry} (reachable : registry.Reachable)
    (near : ∀ source ∈ s.sources, source.rule.StaysNear) {inner outer : DateRange}
    (within : inner.Within outer) (low : 0 ≤ outer.first.year + 1) (high : outer.last.year ≤ 10000)
    {narrow wide : List Occurrence} (hn : s.expand registry inner = .ok narrow)
    (hw : s.expand registry outer = .ok wide) :
    narrow = wide.filter fun o => inner.Contains o.date := by
  obtain ⟨table, lists, dated, walked, rfl⟩ := expand_eq_ok_iff.mp hn
  obtain ⟨table', lists', dated', walked', rfl⟩ := expand_eq_ok_iff.mp hw
  let x : Expanders inner outer :=
    ⟨registry, s.references, table, table', s.system, reachable, dated, dated', within, low, high⟩
  rw [List.filter_flatten]
  congr 1
  exact eq_map_of_mapM_mapM walked walked' fun source member a b here there =>
    x.expandSource_within (near source member) here there

theorem expansionRange_years {s : Specification} {range : DateRange} (early : 0 ≤ range.first.year)
    (late : range.last.year ≤ 9999) :
    0 ≤ (s.expansionRange range).first.year + 1 ∧ (s.expansionRange range).last.year ≤ 10000 := by
  unfold expansionRange
  split
  · omega
  · have first := DateRange.mem_widen.mp
      (⟨Int.le_refl _, (range.widen shiftPadding).ordered⟩ :
        (range.widen shiftPadding).Contains (range.widen shiftPadding).first)
    have last := DateRange.mem_widen.mp
      (⟨(range.widen shiftPadding).ordered, Int.le_refl _⟩ :
        (range.widen shiftPadding).Contains (range.widen shiftPadding).last)
    simp only [shiftPadding] at *
    have := Date.year_le_succ (a := range.first) (b := (range.widen 7).first) (by omega)
    have := Date.year_le_succ (a := (range.widen 7).last) (b := range.last) (by omega)
    omega

theorem expansionRange_within {s : Specification} {inner outer : DateRange}
    (within : inner.Within outer) : (s.expansionRange inner).Within (s.expansionRange outer) := by
  unfold expansionRange
  split
  · exact within
  · exact within.widen _

theorem generate_window {registry : Registry} (reachable : registry.Reachable) {s : Specification}
    (policy : s.policy = .none ∨ s.policy = .nearest)
    (near : ∀ source ∈ s.sources, source.rule.StaysNear) {first a b last : Date}
    (low : first ≤ a) (ordered : a ≤ b) (high : b ≤ last) (early : 0 ≤ first.year)
    (late : last.year ≤ 9999) {wide narrow : List Event}
    (hw : s.generate registry first last = .ok wide)
    (hn : s.generate registry a b = .ok narrow) :
    narrow = wide.filter fun e => a ≤ e.date ∧ e.date ≤ b := by
  have whole : first ≤ last := Int.le_trans low (Int.le_trans ordered high)
  obtain ⟨-, os, expanded, rfl⟩ := (generate_eq_ok_iff ordered).mp hn
  obtain ⟨-, os', expanded', rfl⟩ := (generate_eq_ok_iff whole).mp hw
  have within : DateRange.Within ⟨a, b, ordered⟩ ⟨first, last, whole⟩ := ⟨low, high⟩
  have alone : s.policy ≠ .nextAvailable := by
    rcases policy with h | h <;> rw [h] <;> decide
  have years : 0 ≤ (s.expansionRange ⟨first, last, whole⟩).first.year + 1 ∧
      (s.expansionRange ⟨first, last, whole⟩).last.year ≤ 10000 := expansionRange_years early late
  have cut := expand_within reachable near (expansionRange_within within) years.1 years.2
    expanded expanded'
  calc s.finish ⟨a, b, ordered⟩ os
      = s.complete ⟨a, b, ordered⟩ (s.observed ⟨a, b, ordered⟩ os) := finish_eq s _ os
    _ = s.complete ⟨a, b, ordered⟩ ((s.observed ⟨first, last, whole⟩ os').filter
          fun o => DateRange.Contains ⟨a, b, ordered⟩ o.date) := by
        rw [observed_within alone within cut]
    _ = (s.complete ⟨first, last, whole⟩ (s.observed ⟨first, last, whole⟩ os')).filter
          fun e => DateRange.Contains ⟨a, b, ordered⟩ e.date := (filter_complete within s _).symm
    _ = (s.finish ⟨first, last, whole⟩ os').filter fun e => a ≤ e.date ∧ e.date ≤ b := rfl

def twoHolidays : Specification where
  id := "two-holidays"
  metadata := .empty
  weekend := .satSun
  policy := .nearest
  references := [⟨"easter", "EASTER_WESTERN"⟩]
  sources :=
    [⟨"new-year", "New Year", .fixedMonthDay 1 1 none, none, none, none⟩,
      ⟨"good-friday", "Good Friday", .relative (some "easter") none (some (-2)) none, none, none,
        none⟩]
  classifications := []
  deltas := []
  chain := []

/-- 2021-12-30 to 2022-01-02, with Saturday on New Year's Day. -/
def turnOfYear (day : Fin 4) : Date := (Date.ofNumber? (738154 + day)).getD .first

/-- The holiday of 2022 is an event of the last day of 2021, and of that day alone. -/
theorem generate_window_newYear :
    twoHolidays.generate .defaults (turnOfYear 0) (turnOfYear 3) =
      .ok [⟨turnOfYear 1, .closed, "New Year", "rule:new-year;observed-from=2022-01-01"⟩,
        .ofWeekendDay (turnOfYear 2), .ofWeekendDay (turnOfYear 3)] ∧
    twoHolidays.generate .defaults (turnOfYear 1) (turnOfYear 1) =
      .ok ([⟨turnOfYear 1, .closed, "New Year", "rule:new-year;observed-from=2022-01-01"⟩,
        .ofWeekendDay (turnOfYear 2), .ofWeekendDay (turnOfYear 3)].filter
          fun e => turnOfYear 1 ≤ e.date ∧ e.date ≤ turnOfYear 1) := by
  have wide : twoHolidays.generate .defaults (turnOfYear 0) (turnOfYear 3) =
      .ok [⟨turnOfYear 1, .closed, "New Year", "rule:new-year;observed-from=2022-01-01"⟩,
        .ofWeekendDay (turnOfYear 2), .ofWeekendDay (turnOfYear 3)] := by
    simp only [generate, finish_eq_insertionSort]
    decide +kernel
  have narrow : twoHolidays.generate .defaults (turnOfYear 1) (turnOfYear 1) =
      .ok [⟨turnOfYear 1, .closed, "New Year", "rule:new-year;observed-from=2022-01-01"⟩] := by
    simp only [generate, finish_eq_insertionSort]
    decide +kernel
  have near : ∀ source ∈ twoHolidays.sources, source.rule.StaysNear := by
    intro source member
    rcases List.mem_pair.mp member with rfl | rfl
    · exact True.intro
    · exact ⟨fun n given => Option.some.inj given ▸ by decide, fun w given => by cases given⟩
  refine ⟨wide, narrow.trans (congrArg Except.ok ?_)⟩
  exact generate_window .defaults (Or.inr rfl) near (by decide) (by decide) (by decide) (by decide)
    (by decide) wide narrow

end Specification

end Holidays
