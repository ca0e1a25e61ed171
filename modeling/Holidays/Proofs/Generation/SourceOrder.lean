import Holidays.Proofs.Generation.RepeatedDates
import Holidays.Proofs.Generation.Shape
import Holidays.Proofs.Generation.Systems

namespace Holidays

namespace Occurrence

/-- The same occurrences of each key in the same order, in whatever way the keys are mixed. -/
def SameByKey (os os' : List Occurrence) : Prop :=
  ∀ key, os.filter (fun o => o.key = key) = os'.filter fun o => o.key = key

variable {os os' : List Occurrence}

theorem SameByKey.find? (h : SameByKey os os') (p : String × Date) :
    Keyed.find? pair p os = Keyed.find? pair p os' := by
  have within (os : List Occurrence) :
      Keyed.find? pair p os = Keyed.find? pair p (os.filter fun o => o.key = p.1) := by
    rw [Keyed.find?, Keyed.find?, List.find?_filter]
    congr 1
    funext o
    simp only [pair, Prod.ext_iff]
    grind
  rw [within os, within os', h p.1]

theorem SameByKey.filterMap (h : SameByKey os os') {f : Occurrence → Option Occurrence}
    (keeps : ∀ o o', f o = some o' → o'.key = o.key) :
    SameByKey (os.filterMap f) (os'.filterMap f) := by
  have cut (os : List Occurrence) (key : String) :
      (os.filterMap f).filter (fun o => o.key = key) =
        (os.filter fun o => o.key = key).filterMap f := by
    rw [List.filter_filterMap, List.filterMap_filter]
    apply List.filterMap_congr
    intro o _
    cases made : f o with
    | none => simp
    | some o' => simp [Option.filter_some, keeps o o' made]
  intro key
  rw [cut, cut, h key]

end Occurrence

theorem filter_flatten_sources {g : EventSource → List Occurrence}
    (own : ∀ source, ∀ o ∈ g source, o.key = source.key) {sources : List EventSource}
    (distinct : (sources.map EventSource.key).Nodup) (key : String) :
    (sources.map g).flatten.filter (fun o => o.key = key) =
      ((Keyed.find? EventSource.key key sources).map g).getD [] := by
  induction sources with
  | nil => rfl
  | cons source sources ih =>
    rw [List.map_cons, List.nodup_cons] at distinct
    rw [List.map_cons, List.flatten_cons, List.filter_append, ih distinct.2]
    by_cases here : source.key = key
    · subst here
      have whole : (g source).filter (fun o => o.key = source.key) = g source := by
        simpa using own source
      have others : Keyed.find? EventSource.key source.key sources = none :=
        Keyed.find?_eq_none_iff.mpr distinct.1
      rw [whole, others]
      simp [Keyed.find?]
    · have none : (g source).filter (fun o => o.key = key) = [] := by
        rw [List.filter_eq_nil_iff]
        intro o listed
        simpa [own source o listed] using here
      rw [none]
      simp [Keyed.find?, here]

theorem Delta.applyAll_perm {sources sources' : List EventSource} {range : DateRange}
    (names : sourceName sources = sourceName sources') {os os' : List Occurrence}
    (h : Occurrence.SameByKey os os') (deltas : List Delta) :
    (applyAll sources range os deltas).Perm (applyAll sources' range os' deltas) := by
  have made : addition? sources range = addition? sources' range := by
    funext p δ
    cases δ <;> simp only [addition?, names]
  -- A pair has one occurrence at most on either side, so it is enough to look each one up.
  apply Keyed.perm_of_find? (nodup_applyAll deltas) (nodup_applyAll deltas)
  intro p
  rw [find?_applyAll, find?_applyAll, h.find?, made]

namespace Event

theorem fillWeekends_perm {events events' : List Event} (h : events.Perm events')
    (weekend : Weekend) (range : DateRange) :
    (fillWeekends weekend range events).Perm (fillWeekends weekend range events') := by
  have taken (d : Date) :
      (events.map Event.date).contains d = (events'.map Event.date).contains d := by
    rw [Bool.eq_iff_iff, List.contains_iff_mem, List.contains_iff_mem, (h.map Event.date).mem_iff]
  simp only [fillWeekends, taken]
  exact h.append_right _

end Event

namespace Specification

section

variable {s : Specification} {sources : List EventSource} (reordered : sources.Perm s.sources)
  (distinct : (s.sources.map EventSource.key).Nodup)

include reordered

theorem shiftableKeys_reordered : (s.withSources sources).shiftableKeys.Perm s.shiftableKeys :=
  (reordered.filter _).map _

theorem validate_reordered {registry : Registry} (valid : s.validate registry = .ok ()) :
    (s.withSources sources).validate registry = .ok () := by
  rw [validate_eq_ok_iff] at valid ⊢
  have systems : (s.withSources sources).systems.Perm s.systems :=
    (reordered.filterMap _).cons _
  exact fun id named => valid id (systems.mem_iff.mp named)

include distinct

theorem source?_reordered (key : String) : (s.withSources sources).source? key = s.source? key :=
  Keyed.find?_perm reordered distinct key

theorem sourceName_reordered : Delta.sourceName sources = Delta.sourceName s.sources := by
  funext key
  have found : sources.find? (·.key == key) = s.sources.find? (·.key == key) :=
    Keyed.find?_perm reordered distinct key
  rw [Delta.sourceName, Delta.sourceName, found]

theorem expand_reordered {registry : Registry} {range : DateRange} {os : List Occurrence}
    (expanded : s.expand registry range = .ok os) :
    ∃ os', (s.withSources sources).expand registry range = .ok os' ∧
      Occurrence.SameByKey os' os := by
  obtain ⟨table, lists, dated, walked, rfl⟩ := expand_eq_ok_iff.mp expanded
  let f := expandSource ⟨registry, some table, s.system⟩ range
  let g := fun source => (f source).toOption.getD []
  obtain ⟨lists', walked'⟩ : ∃ lists', sources.mapM f = .ok lists' := by
    apply exists_mapM_eq_ok
    intro source held
    obtain ⟨list, -, one⟩ := exists_ok_of_mapM walked (reordered.subset held)
    exact ⟨list, one⟩
  have each : ∀ source list, f source = .ok list → list = g source := by
    intro source list one
    simp [g, one, Except.toOption]
  have own : ∀ source, ∀ o ∈ g source, o.key = source.key := by
    intro source o held
    cases one : f source with
    | error e => simp [g, one, Except.toOption] at held
    | ok list => exact (mem_expandSource one (each source list one ▸ held)).1
  have distinct' : (sources.map EventSource.key).Nodup :=
    (reordered.map EventSource.key).nodup_iff.mpr distinct
  refine ⟨lists'.flatten, expand_eq_ok_iff.mpr ⟨table, lists', dated, walked', rfl⟩, ?_⟩
  intro key
  rw [eq_map_of_mapM walked each, eq_map_of_mapM walked' each, filter_flatten_sources own distinct,
    filter_flatten_sources own distinct', Keyed.find?_perm reordered distinct]

theorem finish_reordered (policy : s.policy ≠ .nextAvailable) {os os' : List Occurrence}
    (h : Occurrence.SameByKey os' os) (range : DateRange) :
    ((s.withSources sources).finish range os').Perm (s.finish range os) := by
  have alone : (s.withSources sources).dayAlone = s.dayAlone := by
    funext o
    have keys : (s.withSources sources).shiftableKeys.contains o.key =
        s.shiftableKeys.contains o.key := by
      rw [Bool.eq_iff_iff, List.contains_iff_mem, List.contains_iff_mem,
        (shiftableKeys_reordered reordered).mem_iff]
    rw [dayAlone, keys]
    rfl
  have observed : Occurrence.SameByKey ((s.withSources sources).observed range os')
      (s.observed range os) := by
    rw [observed_eq_filterMap policy, observed_eq_filterMap (s := s.withSources sources) policy,
      alone]
    apply h.filterMap
    intro o o' moved
    obtain ⟨d, -, rfl⟩ := Option.map_eq_some_iff.mp moved
    exact o.observedOn_key d
  have classified : (s.withSources sources).classify = s.classify := by
    funext os
    simp only [classify, classificationOf, source?_reordered reordered distinct]
    rfl
  have overridden : (Delta.applyAll sources range ((s.withSources sources).observed range os')
      s.deltas).Perm (Delta.applyAll s.sources range (s.observed range os) s.deltas) :=
    Delta.applyAll_perm (sourceName_reordered reordered distinct) observed s.deltas
  rw [finish_eq, finish_eq, complete, complete, classified]
  refine (List.mergeSort_perm _ _).trans (.trans ?_ (List.mergeSort_perm _ _).symm)
  exact Event.fillWeekends_perm (overridden.map _) _ _

theorem exists_generate_reordered (policy : s.policy ≠ .nextAvailable) {registry : Registry}
    {first last : Date} {events : List Event}
    (run : s.generate registry first last = .ok events) :
    ∃ events', (s.withSources sources).generate registry first last = .ok events' ∧
      events'.Perm events ∧ events'.map Event.date = events.map Event.date := by
  by_cases ordered : first ≤ last
  · obtain ⟨valid, os, expanded, rfl⟩ := (generate_eq_ok_iff ordered).mp run
    obtain ⟨os', expanded', mixed⟩ := expand_reordered reordered distinct expanded
    have perm := finish_reordered reordered distinct policy mixed ⟨first, last, ordered⟩
    refine ⟨_, (generate_eq_ok_iff ordered).mpr
      ⟨validate_reordered reordered valid, os', expanded', rfl⟩, perm, ?_⟩
    -- Both lists are sorted by date, so the dates cannot differ.
    have sorted (t : Specification) (os : List Occurrence) :
        ((t.finish ⟨first, last, ordered⟩ os).map Event.date).Pairwise (· ≤ ·) :=
      List.pairwise_map.mpr (t.finish_sorted _ os)
    refine List.Perm.eq_of_pairwise ?_ (sorted _ os') (sorted s os) (perm.map Event.date)
    intro a b _ _ low high
    exact Date.ext_number (Int.le_antisymm low high)
  · rw [generate_inverted ordered] at run
    cases run

end

/-- In another order of its sources a specification fails when it does in the first one; where it
returns, it has the same events, and as many on each day. -/
theorem generate_reordered {s : Specification} (policy : s.policy = .none ∨ s.policy = .nearest)
    (distinct : (s.sources.map EventSource.key).Nodup) {sources : List EventSource}
    (reordered : sources.Perm s.sources) (registry : Registry) (first last : Date) :
    (∃ e e', s.generate registry first last = .error e ∧
      (s.withSources sources).generate registry first last = .error e') ∨
    ∃ events events', s.generate registry first last = .ok events ∧
      (s.withSources sources).generate registry first last = .ok events' ∧
      events'.Perm events ∧ events'.map Event.date = events.map Event.date := by
  have alone : s.policy ≠ .nextAvailable := by
    rcases policy with h | h <;> rw [h] <;> decide
  cases run : s.generate registry first last with
  | ok events =>
    obtain ⟨events', run', perm, dates⟩ := exists_generate_reordered reordered distinct alone run
    exact .inr ⟨events, events', rfl, run', perm, dates⟩
  | error e =>
    cases run' : (s.withSources sources).generate registry first last with
    | error e' => exact .inl ⟨e, e', rfl, rfl⟩
    | ok events' =>
      have distinct' : (sources.map EventSource.key).Nodup :=
        (reordered.map EventSource.key).nodup_iff.mpr distinct
      obtain ⟨events, again, -⟩ := exists_generate_reordered (s := s.withSources sources)
        reordered.symm distinct' alone run'
      have back : (s.withSources sources).withSources s.sources = s := rfl
      rw [back, run] at again
      cases again

def lastDay2021 : Date := (Date.ofNumber? 738155).getD .first

def newYear : EventSource := ⟨"new-year", "New Year", .fixedMonthDay 1 1 none, none, none, none⟩

def closingDay : EventSource :=
  ⟨"closing-day", "Closing Day", .explicitDates [⟨lastDay2021, none⟩], none, none, none⟩

def twoOnOneDay : Specification where
  id := "two-on-one-day"
  metadata := .empty
  weekend := .satSun
  policy := .nearest
  references := []
  sources := [newYear, closingDay]
  classifications := [("closing-day", .notable)]
  deltas := []
  chain := []

theorem generate_reordered_turnOfYear :
    (twoOnOneDay.sources.map EventSource.key).Nodup ∧
    [closingDay, newYear].Perm twoOnOneDay.sources ∧
    twoOnOneDay.generate .defaults lastDay2021 lastDay2021 =
      .ok [⟨lastDay2021, .closed, "New Year", "rule:new-year;observed-from=2022-01-01"⟩,
        ⟨lastDay2021, .notable, "Closing Day", "rule:closing-day"⟩] ∧
    ∃ events, (twoOnOneDay.withSources [closingDay, newYear]).generate .defaults lastDay2021
        lastDay2021 = .ok events ∧
      events.Perm [⟨lastDay2021, .closed, "New Year", "rule:new-year;observed-from=2022-01-01"⟩,
        ⟨lastDay2021, .notable, "Closing Day", "rule:closing-day"⟩] ∧
      events.map Event.date = [lastDay2021, lastDay2021] := by
  have distinct : (twoOnOneDay.sources.map EventSource.key).Nodup := by decide
  have swapped : [closingDay, newYear].Perm twoOnOneDay.sources := .swap newYear closingDay []
  have run : twoOnOneDay.generate .defaults lastDay2021 lastDay2021 =
      .ok [⟨lastDay2021, .closed, "New Year", "rule:new-year;observed-from=2022-01-01"⟩,
        ⟨lastDay2021, .notable, "Closing Day", "rule:closing-day"⟩] := by
    simp only [generate, finish_eq_insertionSort]
    decide +kernel
  refine ⟨distinct, swapped, run, ?_⟩
  rcases generate_reordered (.inr rfl) distinct swapped .defaults lastDay2021 lastDay2021 with
    ⟨e, e', failed, -⟩ | ⟨events, events', returned, run', perm, dates⟩
  · rw [run] at failed
    cases failed
  · rw [run] at returned
    cases returned
    exact ⟨events', run', perm, dates⟩

end Specification

end Holidays
