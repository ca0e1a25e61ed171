import Holidays.Proofs.Generation.Deltas
import Holidays.Proofs.Generation.Finish

namespace Holidays

namespace Event

def facts (e : Event) : Date × String × String := (e.date, e.description, e.provenance)

end Event

namespace EventSource

def unclassified (source : EventSource) : EventSource := { source with classification := none }

end EventSource

namespace Delta

/-- A delta without a classification; nothing is left of a reclassification. -/
def unclassified? : Delta → Option Delta
  | .add key date name _ => some (.add key date name none)
  | .remove key date => some (.remove key date)
  | .reclassify _ _ _ => none

variable {sources : List EventSource} {range : DateRange}

theorem sourceName_unclassified (key : String) :
    sourceName (sources.map EventSource.unclassified) key = sourceName sources key := by
  simp only [sourceName, List.find?_map, Option.map_map]
  rfl

theorem applyOne_unclassified (os : List Occurrence) (δ : Delta) :
    (δ.unclassified?.elim os fun bare =>
      applyOne (sources.map EventSource.unclassified) range os bare) =
      applyOne sources range os δ := by
  cases δ with
  | add key date name classification =>
    simp only [unclassified?, Option.elim, applyOne, sourceName_unclassified]
  | remove key date => rfl
  | reclassify key date classification => rfl

theorem applyAll_unclassified (os : List Occurrence) (deltas : List Delta) :
    applyAll (sources.map EventSource.unclassified) range os (deltas.filterMap unclassified?) =
      applyAll sources range os deltas := by
  induction deltas using List.reverseRecOn with
  | nil => rfl
  | append_singleton deltas δ ih =>
    rw [applyAll_concat, ← ih, List.filterMap_append, ← applyOne_unclassified]
    cases bare : δ.unclassified? with
    | none => simp [bare]
    | some δ' => simp [bare, applyAll_concat]

end Delta

namespace Specification

def unclassified (s : Specification) : Specification :=
  { s with
    sources := s.sources.map EventSource.unclassified
    classifications := []
    deltas := s.deltas.filterMap Delta.unclassified? }

variable {s : Specification} {registry : Registry} {range : DateRange}

theorem validate_unclassified : s.unclassified.validate registry = s.validate registry := by
  have systems : s.unclassified.systems = s.systems := by
    simp only [systems, unclassified, List.filterMap_map]
    rfl
  rw [validate, systems]
  rfl

theorem expand_unclassified :
    s.unclassified.expand registry range = s.expand registry range := by
  simp only [expand, unclassified, List.mapM_map]
  rfl

theorem shiftableKeys_unclassified : s.unclassified.shiftableKeys = s.shiftableKeys := by
  simp only [shiftableKeys, unclassified, List.filter_map, List.map_map]
  rfl

theorem facts_fillWeekends {weekend : Weekend} {events events' : List Event}
    (same : events.map Event.facts = events'.map Event.facts) :
    (Event.fillWeekends weekend range events).map Event.facts =
      (Event.fillWeekends weekend range events').map Event.facts := by
  have dates : events.map Event.date = events'.map Event.date := by
    have first := congrArg (List.map Prod.fst) same
    rwa [List.map_map, List.map_map] at first
  simp only [Event.fillWeekends, List.map_append, same, dates]

theorem facts_sort (events : List Event) :
    (events.mergeSort fun a b => decide (a.date ≤ b.date)).map Event.facts =
      (events.map Event.facts).mergeSort fun a b => decide (a.1 ≤ b.1) :=
  List.map_mergeSort fun _ _ _ _ => rfl

theorem facts_finish (os : List Occurrence) :
    (s.unclassified.finish range os).map Event.facts = (s.finish range os).map Event.facts := by
  have observed : s.unclassified.observed range os = s.observed range os := by
    rw [Specification.observed, shiftableKeys_unclassified]
    rfl
  have classified (os : List Occurrence) :
      (s.unclassified.classify os).map Event.facts = (s.classify os).map Event.facts := by
    simp only [classify, List.map_map]
    rfl
  have overridden (os : List Occurrence) :
      Delta.applyAll s.unclassified.sources range os s.unclassified.deltas =
        Delta.applyAll s.sources range os s.deltas := Delta.applyAll_unclassified os s.deltas
  rw [finish_eq, finish_eq, observed, complete, complete, facts_sort, facts_sort, overridden]
  congr 1
  exact facts_fillWeekends (classified _)

theorem facts_generate (first last : Date) :
    (s.unclassified.generate registry first last).map (List.map Event.facts) =
      (s.generate registry first last).map (List.map Event.facts) := by
  unfold generate
  cases DateRange.of first last with
  | error e => rfl
  | ok range =>
    have widened : s.unclassified.expansionRange range = s.expansionRange range := rfl
    simp only [validate_unclassified, expand_unclassified, widened]
    cases s.validate registry with
    | error e => rfl
    | ok _ =>
      cases s.expand registry (s.expansionRange range) with
      | error e => rfl
      | ok os => exact congrArg Except.ok (facts_finish os)

/-- Specifications that differ only in classifications fail alike, or have events that differ only
in classifications. -/
theorem generate_unclassified {s t : Specification} (same : s.unclassified = t.unclassified)
    (registry : Registry) (first last : Date) :
    (s.generate registry first last).map (List.map Event.facts) =
      (t.generate registry first last).map (List.map Event.facts) := by
  rw [← facts_generate, same, facts_generate]

/-- 2024-01-09. -/
def fairDay : Date := (Date.ofNumber? 738894).getD .first

def plainDay : Specification where
  id := "fair"
  metadata := .empty
  weekend := .satSun
  policy := .none
  references := []
  sources := [⟨"fair", "Fair", .explicitDates [⟨fairDay, none⟩], none, none, none⟩]
  classifications := []
  deltas := [.add "mourning" fairDay (some "Day of Mourning") none]
  chain := []

/-- The same day with something said about it in every place where this can be done. -/
def labelledDay : Specification :=
  { plainDay with
    sources := [⟨"fair", "Fair", .explicitDates [⟨fairDay, none⟩], some .closed, none, none⟩]
    classifications := [("fair", .earlyClose)]
    deltas :=
      [.reclassify "mourning" fairDay .notable,
        .add "mourning" fairDay (some "Day of Mourning") (some .closed),
        .reclassify "fair" fairDay .periodMarker] }

theorem generate_unclassified_fairDay :
    plainDay.unclassified = labelledDay.unclassified ∧
    labelledDay.generate .defaults fairDay fairDay =
      .ok [⟨fairDay, .periodMarker, "Fair", "rule:fair"⟩,
        ⟨fairDay, .notable, "Day of Mourning", "delta:add"⟩] ∧
    (plainDay.generate .defaults fairDay fairDay).map (List.map Event.facts) =
      .ok [(fairDay, "Fair", "rule:fair"), (fairDay, "Day of Mourning", "delta:add")] := by
  have same : plainDay.unclassified = labelledDay.unclassified := rfl
  have run : labelledDay.generate .defaults fairDay fairDay =
      .ok [⟨fairDay, .periodMarker, "Fair", "rule:fair"⟩,
        ⟨fairDay, .notable, "Day of Mourning", "delta:add"⟩] := by
    simp only [generate, finish_eq_insertionSort]
    decide +kernel
  refine ⟨same, run, ?_⟩
  rw [generate_unclassified same, run]
  rfl

end Specification

end Holidays
