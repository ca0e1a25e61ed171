import Holidays.Proofs.Generation.CascadeWindow
import Holidays.Proofs.Generation.Deltas
import Holidays.Proofs.Observance.Conservation

namespace Holidays

theorem mem_expandSource {x : Expander} {range : DateRange} {source : EventSource}
    {os : List Occurrence} (h : Specification.expandSource x range source = .ok os) {o : Occurrence}
    (held : o ∈ os) : o.key = source.key ∧ o.provenance = "rule:" ++ source.key := by
  simp only [Specification.expandSource, Expander.expand, bind_eq_ok_iff, pure_eq_ok_iff] at h
  obtain ⟨named, ⟨dates, -, rfl⟩, rfl⟩ := h
  obtain ⟨⟨date, name⟩, -, rfl⟩ := List.mem_map.mp (List.mem_filter.mp held).1
  exact ⟨rfl, rfl⟩

theorem Occurrence.observedOn_key (o : Occurrence) (d : Date) : (o.observedOn d).key = o.key := by
  unfold observedOn
  split <;> rfl

/-- The event of a rule, told by its provenance. -/
def Event.IsRuled (e : Event) : Prop := "rule:".toList <+: e.provenance.toList

theorem Occurrence.observedOn_provenance (o : Occurrence) (d : Date) :
    o.provenance.toList <+: (o.observedOn d).provenance.toList := by
  unfold observedOn
  split
  · exact List.prefix_rfl
  · simp [String.toList_append]

namespace Specification

theorem observed_business {s : Specification} (policy : s.policy ≠ .none) {range : DateRange}
    {os : List Occurrence} {o : Occurrence} (h : o ∈ s.observed range os) :
    s.weekend.covers o.date = false :=
  Observance.business_of_mem_apply policy (List.mem_filter.mp h).1

theorem observed_in_order (s : Specification) (range : DateRange) (os : List Occurrence) :
    List.SublistForall₂ (fun a o => a = o.observedOn a.date) (s.observed range os) os := by
  by_cases cascading : s.policy = .nextAvailable
  · rw [observed_eq_observances cascading]
    have part : ((Observance.observances s.weekend (s.kept os)).map Prod.fst).Sublist os := by
      rw [Observance.observances_fst]
      exact List.filter_sublist
    apply sublistForall₂_of_sublist_right _ part
    apply sublistForall₂_filterMap
    rintro ⟨o, target⟩ - a moved
    obtain ⟨t, -, rfl⟩ := Option.map_eq_some_iff.mp moved
    rw [Occurrence.date_observedOn]
  · rw [observed_eq_filterMap cascading, ← List.map_id os, List.filterMap_map]
    apply sublistForall₂_filterMap
    rintro o - a moved
    obtain ⟨t, -, rfl⟩ := Option.map_eq_some_iff.mp moved
    rw [Occurrence.date_observedOn]

def eventOf (s : Specification) (o : Occurrence) : Event :=
  ⟨o.date, s.classificationOf o, o.name, o.provenance⟩

theorem classify_eq (s : Specification) (os : List Occurrence) : s.classify os = os.map s.eventOf :=
  rfl

/-- The event is that of an occurrence of the source, on the day on which it is observed. -/
def ComesFrom (s : Specification) (registry : Registry) (range : DateRange) (e : Event)
    (source : EventSource) : Prop :=
  ∃ table os o,
    ReferenceDates.ofReferences registry (s.expansionRange range) s.references = .ok table ∧
    expandSource ⟨registry, some table, s.system⟩ (s.expansionRange range) source = .ok os ∧
    o ∈ os ∧ e = s.eventOf (o.observedOn e.date)

variable {s : Specification} {registry : Registry} {range : DateRange} {os : List Occurrence}

theorem comesFrom_of_observed (expanded : s.expand registry (s.expansionRange range) = .ok os)
    {part : List Occurrence} (within : part.Sublist (s.observed range os))
    (distinct : (part.map Occurrence.key).Nodup) :
    List.SublistForall₂ (s.ComesFrom registry range) (part.map s.eventOf) s.sources := by
  obtain ⟨table, lists, dated, walked, rfl⟩ := expand_eq_ok_iff.mp expanded
  rw [List.sublistForall₂_map_left_iff]
  apply sublistForall₂_of_flatten Occurrence.key EventSource.key _ distinct
    (sublistForall₂_of_sublist_left (s.observed_in_order range _) within)
  apply (forall₂_of_mapM walked).imp
  intro source group given a o listed moved
  refine ⟨⟨table, group, o, dated, given, listed, ?_⟩, ?_⟩
  · show s.eventOf a = s.eventOf (o.observedOn a.date)
    rw [← moved]
  · rw [moved, Occurrence.observedOn_key, (mem_expandSource given listed).1]

theorem observed_ruled (expanded : s.expand registry (s.expansionRange range) = .ok os)
    {o : Occurrence} (h : o ∈ s.observed range os) : (s.eventOf o).IsRuled := by
  obtain ⟨table, lists, dated, walked, rfl⟩ := expand_eq_ok_iff.mp expanded
  obtain ⟨p, held, moved⟩ := exists_of_sublistForall₂ (s.observed_in_order range _) h
  obtain ⟨group, listed, own⟩ := List.mem_flatten.mp held
  obtain ⟨source, -, given⟩ := exists_of_mem_mapM walked listed
  have ruled := (mem_expandSource given own).2
  have start : "rule:".toList <+: p.provenance.toList := by
    rw [ruled, String.toList_append]
    exact List.prefix_append _ _
  show "rule:".toList <+: o.provenance.toList
  rw [moved]
  exact start.trans (p.observedOn_provenance o.date)

theorem days_of_day {d : Date} (early : d ≠ Date.last) : (DateRange.day d).days = [d] := by
  have other : d.number ≠ Date.last.number := fun same => early (Date.ext_number same)
  have found : Date.ofNumber? d.number = some d := Date.ofNumber?_eq_some_iff.mpr rfl
  simp [DateRange.days, DateRange.day, span_self, other, found]

theorem complete_on_day (s : Specification) {d : Date} (early : d ≠ Date.last)
    {es : List Event} (placed : ∀ e ∈ es, e.date = d) :
    (Event.fillWeekends s.weekend (.day d) es).mergeSort (fun a b => decide (a.date ≤ b.date)) =
      if es = [] ∧ s.weekend.covers d = true then [.ofWeekendDay d] else es := by
  have filled : Event.fillWeekends s.weekend (.day d) es =
      if es = [] ∧ s.weekend.covers d = true then [.ofWeekendDay d] else es := by
    simp only [Event.fillWeekends, days_of_day early]
    cases es with
    | nil => cases covered : s.weekend.covers d <;> simp [covered]
    | cons e es => simp [placed e List.mem_cons_self]
  rw [filled]
  apply List.mergeSort_of_pairwise
  split
  · exact List.pairwise_singleton _ _
  · apply List.pairwise_of_forall_mem_list
    intro a ha b hb
    rw [placed a ha, placed b hb]
    exact decide_eq_true (Int.le_refl _)

theorem spared_keys {d : Date} (placed : ∀ o ∈ os, o.date = d) (deltas : List Delta) :
    ((Delta.spared os deltas).map Occurrence.key).Nodup := by
  have within : (Delta.spared os deltas).Sublist (Occurrence.firsts os) := List.filter_sublist
  have pairs := (Occurrence.nodup_firsts os).sublist (within.map Occurrence.pair)
  have keyed : (Delta.spared os deltas).map Occurrence.pair =
      ((Delta.spared os deltas).map Occurrence.key).map fun key => (key, d) := by
    rw [List.map_map]
    apply List.map_congr_left
    intro o held
    exact Prod.ext rfl (placed o ((Occurrence.firsts_sublist os).subset (within.subset held)))
  exact List.Nodup.of_map _ (keyed ▸ pairs)

theorem finish_day (expanded : s.expand registry (s.expansionRange range) = .ok os) {d : Date}
    (inside : range.Contains d) (early : d ≠ Date.last) :
    ∃ rules added : List Event,
      (s.finish range os).filter (fun e => e.date = d) =
        (if rules ++ added = [] ∧ s.weekend.covers d = true then [.ofWeekendDay d]
          else rules ++ added) ∧
      List.SublistForall₂ (s.ComesFrom registry range) rules s.sources ∧
      (∀ e ∈ rules, e.IsRuled ∧ (s.policy ≠ .none → s.weekend.covers d = false)) ∧
      ∀ e ∈ added, e.provenance = Delta.addedProvenance := by
  have onDay {α : Type} (date : α → Date) (as : List α) :
      as.filter (fun a => (DateRange.day d).Contains (date a)) = as.filter fun a => date a = d := by
    simp only [DateRange.contains_day]
  have found {o : Occurrence} (h : o ∈ (s.observed range os).filter fun o => o.date = d) :
      o ∈ s.observed range os ∧ o.date = d := by
    simpa using h
  obtain ⟨placed, whole, -, inserts⟩ := Delta.exists_placed s.sources (.day d)
    ((s.observed range os).filter fun o => o.date = d) s.deltas
  have within : (Delta.spared ((s.observed range os).filter fun o => o.date = d) s.deltas).Sublist
      ((s.observed range os).filter fun o => o.date = d) :=
    List.filter_sublist.trans (Occurrence.firsts_sublist _)
  have added : ∀ x ∈ placed, x.2.date = d ∧ x.2.provenance = Delta.addedProvenance := by
    intro x listed
    obtain ⟨δ, -, made⟩ := (inserts x listed).addition
    obtain ⟨-, here, marked, -⟩ := Delta.addition?_eq_some made
    exact ⟨DateRange.contains_day.mp here, marked⟩
  refine ⟨_, (placed.map Prod.snd).map s.eventOf, ?_,
    comesFrom_of_observed expanded (within.trans List.filter_sublist)
      (spared_keys (fun o held => (found held).2) s.deltas), ?_, ?_⟩
  -- The day alone is finished like the range, so only its own occurrences matter.
  · rw [← onDay Event.date, finish_eq, filter_complete inside.day_within, onDay Occurrence.date,
      complete, classify_eq, whole, List.map_append]
    apply complete_on_day s early
    intro e listed
    rcases List.mem_append.mp listed with ruled | late
    · obtain ⟨o, held, rfl⟩ := List.mem_map.mp ruled
      exact (found (within.subset held)).2
    · obtain ⟨o, held, rfl⟩ := List.mem_map.mp late
      obtain ⟨x, there, rfl⟩ := List.mem_map.mp held
      exact (added x there).1
  · intro e listed
    obtain ⟨o, held, rfl⟩ := List.mem_map.mp listed
    obtain ⟨observed, here⟩ := found (within.subset held)
    exact ⟨observed_ruled expanded observed,
      fun policy => here ▸ observed_business policy observed⟩
  · intro e listed
    obtain ⟨o, held, rfl⟩ := List.mem_map.mp listed
    obtain ⟨x, there, rfl⟩ := List.mem_map.mp held
    exact (added x there).2

theorem exists_on_weekendDay (expanded : s.expand registry (s.expansionRange range) = .ok os)
    {d : Date} (inside : range.Contains d) (early : d ≠ Date.last)
    (covered : s.weekend.covers d = true) : ∃ e ∈ s.finish range os, e.date = d := by
  obtain ⟨rules, added, day, -⟩ := finish_day expanded inside early
  have some : (s.finish range os).filter (fun e => e.date = d) ≠ [] := by
    rw [day]
    split
    · exact List.cons_ne_nil _ _
    · next more => exact fun none => more ⟨none, covered⟩
  obtain ⟨e, listed⟩ := List.exists_mem_of_ne_nil _ some
  exact ⟨e, by simpa using listed⟩

theorem finish_event (expanded : s.expand registry (s.expansionRange range) = .ok os) {e : Event}
    (listed : e ∈ s.finish range os) (inside : range.Contains e.date) (early : e.date ≠ Date.last) :
    (e.provenance = Event.weekendProvenance ∧ s.weekend.covers e.date = true ∧
      (s.finish range os).filter (fun x => x.date = e.date) = [e]) ∨
    (e.IsRuled ∧ (s.policy ≠ .none → s.weekend.covers e.date = false)) ∨
    e.provenance = Delta.addedProvenance := by
  obtain ⟨rules, added, day, -, ruled, marked⟩ := finish_day expanded inside early
  have own : e ∈ (s.finish range os).filter fun x => x.date = e.date := by
    simpa using listed
  rw [day] at own ⊢
  split at own
  · next empty =>
    have filled := List.mem_singleton.mp own
    rw [if_pos empty, ← filled]
    exact .inl ⟨congrArg Event.provenance filled, empty.2, rfl⟩
  · rcases List.mem_append.mp own with rule | late
    · exact .inr (.inl (ruled e rule))
    · exact .inr (.inr (marked e late))

theorem weekend_not_ruled {e : Event} (filled : e.provenance = Event.weekendProvenance) :
    ¬ e.IsRuled := by
  rw [Event.IsRuled, filled]
  decide

theorem added_not_ruled {e : Event} (marked : e.provenance = Delta.addedProvenance) :
    ¬ e.IsRuled := by
  rw [Event.IsRuled, marked]
  decide

theorem added_not_weekend : Delta.addedProvenance ≠ Event.weekendProvenance := by decide

theorem finish_daily (expanded : s.expand registry (s.expansionRange range) = .ok os) {d : Date}
    (inside : range.Contains d) (early : d ≠ Date.last) :
    ∃ rules added : List Event,
      (s.finish range os).filter
        (fun e => e.date = d ∧ e.provenance ≠ Event.weekendProvenance) = rules ++ added ∧
      List.SublistForall₂ (s.ComesFrom registry range) rules s.sources ∧
      (∀ e ∈ rules, e.IsRuled) ∧ ∀ e ∈ added, e.provenance = Delta.addedProvenance := by
  obtain ⟨rules, added, day, placed, ruled, marked⟩ := finish_day expanded inside early
  refine ⟨rules, added, ?_, placed, fun e listed => (ruled e listed).1, marked⟩
  have twice : (s.finish range os).filter
        (fun e => e.date = d ∧ e.provenance ≠ Event.weekendProvenance) =
      ((s.finish range os).filter fun e => e.date = d).filter
        fun e => e.provenance ≠ Event.weekendProvenance := by
    rw [List.filter_filter]
    exact List.filter_congr fun e _ => by simp [Bool.and_comm]
  rw [twice, day]
  split
  · next empty =>
    rw [empty.1]
    simp [Event.ofWeekendDay]
  · apply List.filter_eq_self.mpr
    intro e listed
    rcases List.mem_append.mp listed with rule | late
    · exact decide_eq_true fun filled => weekend_not_ruled filled (ruled e rule).1
    · exact decide_eq_true fun filled => added_not_weekend ((marked e late).symm.trans filled)

structure Shape (s : Specification) (registry : Registry) (range : DateRange)
    (events : List Event) : Prop where
  sorted : events.Pairwise fun a b => a.date ≤ b.date
  inside : ∀ e ∈ events, range.Contains e.date
  covered : ∀ d, range.Contains d → s.weekend.covers d = true → ∃ e ∈ events, e.date = d
  alone : ∀ e ∈ events, e.provenance = Event.weekendProvenance →
    s.weekend.covers e.date = true ∧ events.filter (fun x => x.date = e.date) = [e]
  business : s.policy ≠ .none → ∀ e ∈ events, e.IsRuled → s.weekend.covers e.date = false
  daily : ∀ d, ∃ rules added,
    events.filter (fun e => e.date = d ∧ e.provenance ≠ Event.weekendProvenance) = rules ++ added ∧
    List.SublistForall₂ (s.ComesFrom registry range) rules s.sources ∧
    (∀ e ∈ rules, e.IsRuled) ∧ ∀ e ∈ added, e.provenance = Delta.addedProvenance

theorem generate_shape {first last : Date} (ordered : first ≤ last) (early : last < Date.last)
    {events : List Event} (h : s.generate registry first last = .ok events) :
    s.Shape registry ⟨first, last, ordered⟩ events := by
  obtain ⟨-, os, expanded, rfl⟩ := (generate_eq_ok_iff ordered).mp h
  have inside : ∀ e ∈ s.finish ⟨first, last, ordered⟩ os,
      DateRange.Contains ⟨first, last, ordered⟩ e.date := by
    rw [← finish_inside]
    intro e listed
    simpa using (List.mem_filter.mp listed).2
  have notLast {d : Date} (here : DateRange.Contains ⟨first, last, ordered⟩ d) : d ≠ Date.last := by
    rintro rfl
    exact absurd here.2 (Int.not_le.mpr early)
  have kinds {e : Event} (listed : e ∈ s.finish ⟨first, last, ordered⟩ os) :=
    finish_event expanded listed (inside e listed) (notLast (inside e listed))
  refine ⟨finish_sorted s _ os, inside, ?_, ?_, ?_, ?_⟩
  · intro d here covered
    exact exists_on_weekendDay expanded here (notLast here) covered
  · intro e listed filled
    rcases kinds listed with ⟨-, alone⟩ | ⟨ruled, -⟩ | marked
    · exact alone
    · exact absurd ruled (weekend_not_ruled filled)
    · exact absurd (marked.symm.trans filled) added_not_weekend
  · intro policy e listed ruled
    rcases kinds listed with ⟨filled, -⟩ | ⟨-, business⟩ | marked
    · exact absurd ruled (weekend_not_ruled filled)
    · exact business policy
    · exact absurd ruled (added_not_ruled marked)
  · intro d
    by_cases here : DateRange.Contains ⟨first, last, ordered⟩ d
    · exact finish_daily expanded here (notLast here)
    · refine ⟨[], [], ?_, .nil, by simp, by simp⟩
      apply List.filter_eq_nil_iff.mpr
      intro e listed same
      simp only [decide_eq_true_eq] at same
      exact here (same.1 ▸ inside e listed)

def yearEnd : Specification where
  id := "year-end"
  metadata := .empty
  weekend := .satSun
  policy := .nearest
  references := []
  sources :=
    [⟨"new-year", "New Year", .fixedMonthDay 1 1 none, none, none, none⟩,
      ⟨"fair", "Fair", .explicitDates [⟨turnOfYear 1, none⟩], none, none, none⟩]
  classifications := []
  deltas := [.add "party" (turnOfYear 2) (some "Party") none,
    .add "stocktaking" (turnOfYear 1) (some "Stocktaking") (some .notable)]
  chain := []

def yearEndEvents : List Event :=
  [⟨turnOfYear 1, .closed, "New Year", "rule:new-year;observed-from=2022-01-01"⟩,
    ⟨turnOfYear 1, .closed, "Fair", "rule:fair"⟩,
    ⟨turnOfYear 1, .notable, "Stocktaking", "delta:add"⟩,
    ⟨turnOfYear 2, .closed, "Party", "delta:add"⟩, .ofWeekendDay (turnOfYear 3)]

/-- The holiday that moves comes first, as its source does, and the day added last comes last. -/
theorem generate_shape_yearEnd :
    turnOfYear 3 < Date.last ∧
    yearEnd.generate .defaults (turnOfYear 0) (turnOfYear 3) = .ok yearEndEvents ∧
    yearEnd.Shape .defaults ⟨turnOfYear 0, turnOfYear 3, by decide⟩ yearEndEvents := by
  have early : turnOfYear 3 < Date.last := by decide
  have generated : yearEnd.generate .defaults (turnOfYear 0) (turnOfYear 3) =
      .ok yearEndEvents := by
    simp only [generate, finish_eq_insertionSort]
    decide +kernel
  exact ⟨early, generated, generate_shape (by decide) early generated⟩

end Specification

end Holidays
