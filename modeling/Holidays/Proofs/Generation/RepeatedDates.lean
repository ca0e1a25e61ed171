import Holidays.Proofs.Generation.CascadeWindow
import Holidays.Proofs.Observance.Exchange

/-!
A date that an explicit rule names once more. Its occurrence has the key and the date of an earlier
one, so deltas drop it, and where holidays stay or are observed one by one that is all. Where each
weekend holiday takes a day of its own the copy takes one too, and only then the pairs differ.
-/
namespace Holidays

def Repeats {α : Type} (copies these those : List α) : Prop :=
  ∃ front back, these = front ++ back ∧ those = front ++ copies ++ back ∧ copies ⊆ front

namespace Repeats

variable {α β : Type} {copies these those : List α}

theorem eq_of_nil (h : Repeats [] these those) : those = these := by
  obtain ⟨front, back, rfl, rfl, -⟩ := h
  simp

theorem mem_iff (h : Repeats copies these those) {a : α} : a ∈ those ↔ a ∈ these := by
  obtain ⟨front, back, rfl, rfl, known⟩ := h
  simp only [List.mem_append]
  constructor
  · rintro ((first | copied) | last)
    · exact .inl first
    · exact .inl (known copied)
    · exact .inr last
  · rintro (first | last)
    · exact .inl (.inl first)
    · exact .inr last

theorem perm (h : Repeats copies these those) : those.Perm (these ++ copies) := by
  obtain ⟨front, back, rfl, rfl, -⟩ := h
  rw [List.append_assoc, List.append_assoc]
  exact List.perm_append_comm.append_left front

theorem filterMap (h : Repeats copies these those) (f : α → Option β) :
    Repeats (copies.filterMap f) (these.filterMap f) (those.filterMap f) := by
  obtain ⟨front, back, rfl, rfl, known⟩ := h
  refine ⟨front.filterMap f, back.filterMap f, by simp, by simp, ?_⟩
  intro b made
  obtain ⟨a, copied, image⟩ := List.mem_filterMap.mp made
  exact List.mem_filterMap.mpr ⟨a, known copied, image⟩

theorem map (h : Repeats copies these those) (f : α → β) :
    Repeats (copies.map f) (these.map f) (those.map f) := by
  simpa only [List.filterMap_eq_map'] using h.filterMap fun a => some (f a)

theorem filter (h : Repeats copies these those) (p : α → Bool) :
    Repeats (copies.filter p) (these.filter p) (those.filter p) := by
  simpa only [List.filterMap_eq_filter] using h.filterMap (Option.guard p)

theorem within (h : Repeats copies these those) (before after : List α) :
    Repeats copies (before ++ these ++ after) (before ++ those ++ after) := by
  obtain ⟨front, back, rfl, rfl, known⟩ := h
  refine ⟨before ++ front, back ++ after, by simp, by simp, ?_⟩
  exact fun a copied => List.mem_append_right _ (known copied)

end Repeats

namespace Occurrence

theorem foldl_addNew_known {acc copies : List Occurrence}
    (known : ∀ o ∈ copies, o.pair ∈ acc.map pair) : copies.foldl addNew acc = acc := by
  induction copies with
  | nil => rfl
  | cons o copies ih =>
    have first : addNew acc o = acc := by
      rw [addNew, if_pos (by simpa using known o List.mem_cons_self)]
    rw [List.foldl_cons, first]
    exact ih fun p held => known p (List.mem_cons_of_mem o held)

theorem firsts_of_repeats {copies os os' : List Occurrence} (h : Repeats copies os os') :
    firsts os' = firsts os := by
  obtain ⟨front, back, rfl, rfl, known⟩ := h
  have covered : ∀ o ∈ copies, o.pair ∈ (firsts front).map pair := by
    intro o copied
    rw [← Keyed.isSome_find?_iff, find?_firsts, Keyed.isSome_find?_iff]
    exact List.mem_map_of_mem (known copied)
  have same : (front ++ copies).foldl addNew [] = front.foldl addNew [] := by
    rw [List.foldl_append]
    exact foldl_addNew_known covered
  rw [firsts, List.foldl_append, same, firsts, List.foldl_append]

end Occurrence

namespace EventSource

def withDates (source : EventSource) (ds : List NotedDate) : EventSource :=
  { source with rule := .explicitDates ds }

def explicitDays (source : EventSource) (range : DateRange) (ds : List NotedDate) :
    List Occurrence :=
  let named (d : NotedDate) : Occurrence :=
    ⟨source.key, d.date, Expander.explicitName source d, "rule:" ++ source.key⟩
  ((ds.filter fun d => range.Contains d.date).map named).filter fun o =>
    source.isActiveIn o.date.year

theorem explicitDays_repeats (source : EventSource) (range : DateRange) {ds : List NotedDate}
    {e : NotedDate} (held : e ∈ ds) : Repeats (source.explicitDays range [e])
      (source.explicitDays range ds) (source.explicitDays range (ds ++ [e])) := by
  have noted : Repeats [e] ds (ds ++ [e]) :=
    ⟨ds, [], by simp, by simp, by simpa using held⟩
  exact ((noted.filter _).map _).filter _

end EventSource

namespace Specification

theorem expandSource_explicit {x : Expander} {range : DateRange} {source : EventSource}
    {ds : List NotedDate} (ruled : source.rule = .explicitDates ds) :
    expandSource x range source = .ok (source.explicitDays range ds) := by
  simp only [expandSource, Expander.expand, Expander.dates, ruled, EventSource.explicitDays, bind,
    Except.bind, pure, Except.pure, List.map_map]
  rfl

def withSources (s : Specification) (sources : List EventSource) : Specification :=
  { s with sources := sources }

section

variable {s : Specification} {before after : List EventSource} {source : EventSource}
  (listed : s.sources = before ++ source :: after)

include listed

theorem find?_withDates {β : Type} (f : EventSource → Option β) (ds' : List NotedDate)
    (same : f (source.withDates ds') = f source) (key : String) :
    ((before ++ source.withDates ds' :: after).find? (·.key == key)).bind f =
      (s.sources.find? (·.key == key)).bind f := by
  have keys : (source.withDates ds').key = source.key := rfl
  rw [listed, List.find?_append, List.find?_append, List.find?_cons, List.find?_cons, keys]
  cases before.find? (·.key == key) with
  | some found => rfl
  | none =>
    cases source.key == key with
    | true => simp [same]
    | false => rfl

variable {ds : List NotedDate} (ruled : source.rule = .explicitDates ds)

include ruled

/-- Expansion fails as it does without the copy, or the occurrences get those of the copy. -/
theorem expand_withDates {e : NotedDate} (held : e ∈ ds) (registry : Registry)
    (range : DateRange) :
    (∃ err, s.expand registry range = .error err ∧
      (s.withSources (before ++ source.withDates (ds ++ [e]) :: after)).expand registry range =
        .error err) ∨
    ∃ os os', s.expand registry range = .ok os ∧
      (s.withSources (before ++ source.withDates (ds ++ [e]) :: after)).expand registry range =
        .ok os' ∧ Repeats (source.explicitDays range [e]) os os' := by
  simp only [expand, withSources, listed]
  cases ReferenceDates.ofReferences registry range s.references with
  | error err => exact .inl ⟨err, rfl, rfl⟩
  | ok table =>
    have own : expandSource ⟨registry, some table, s.system⟩ range source =
        .ok (source.explicitDays range ds) := expandSource_explicit ruled
    have copied : expandSource ⟨registry, some table, s.system⟩ range
        (source.withDates (ds ++ [e])) = .ok (source.explicitDays range (ds ++ [e])) :=
      expandSource_explicit rfl
    simp only [List.mapM_append, List.mapM_cons, bind, Except.bind, system] at own copied ⊢
    rw [own, copied]
    cases before.mapM (expandSource ⟨registry, some table, _⟩ range) with
    | error err => exact .inl ⟨err, rfl, rfl⟩
    | ok front =>
      cases after.mapM (expandSource ⟨registry, some table, _⟩ range) with
      | error err => exact .inl ⟨err, rfl, rfl⟩
      | ok back =>
        refine .inr ⟨_, _, rfl, rfl, ?_⟩
        have whole := (source.explicitDays_repeats range held).within front.flatten back.flatten
        simpa only [List.flatten_append, List.flatten_cons, List.append_assoc] using whole

theorem shiftableKeys_withDates (ds' : List NotedDate) :
    (s.withSources (before ++ source.withDates ds' :: after)).shiftableKeys = s.shiftableKeys := by
  have shiftable : (source.withDates ds').isShiftable = source.isShiftable := by
    simp [EventSource.isShiftable, EventSource.withDates, ruled, Rule.isFixedMonthDay]
  have keys : (source.withDates ds').key = source.key := rfl
  simp only [shiftableKeys, withSources, listed, List.filter_append, List.filter_cons, shiftable]
  split <;> simp [keys]

theorem finish_withDates (ds' : List NotedDate) (range : DateRange) (os : List Occurrence) :
    (s.withSources (before ++ source.withDates ds' :: after)).finish range os =
      s.finish range os := by
  have names : Delta.sourceName (before ++ source.withDates ds' :: after) =
      Delta.sourceName s.sources := by
    funext key
    rw [Delta.sourceName, Delta.sourceName, Option.map_eq_bind, Option.map_eq_bind,
      find?_withDates listed _ ds' rfl]
  have overridden : Delta.applyOne (before ++ source.withDates ds' :: after) range =
      Delta.applyOne s.sources range := by
    funext os δ
    cases δ <;> simp only [Delta.applyOne, names]
  have classified : (s.withSources (before ++ source.withDates ds' :: after)).classificationOf =
      s.classificationOf := by
    funext o
    have own := find?_withDates listed EventSource.classification ds' rfl o.key
    simp only [classificationOf, source?, withSources, own]
  simp only [finish, shiftableKeys_withDates listed ruled, classify, classified, Delta.applyAll]
  simp only [withSources, overridden]

end

section

variable {s : Specification} {copies os os' : List Occurrence} (h : Repeats copies os os')

include h

theorem complete_of_repeats (range : DateRange) : s.complete range os' = s.complete range os := by
  have same := Occurrence.firsts_of_repeats h
  simp only [Occurrence.firsts] at same
  simp only [complete, Delta.applyAll, same]

theorem kept_repeats : Repeats (s.kept copies) (s.kept os) (s.kept os') := h.filter _

theorem staying_of_repeats {weekend : Weekend} (d : Date) :
    d ∈ Observance.staying weekend os' ↔ d ∈ Observance.staying weekend os := by
  simp only [Observance.mem_staying, h.mem_iff]

theorem onDay_of_staying {weekend : Weekend}
    (business : ∀ o ∈ copies, weekend.covers o.date = false) (d : Date) :
    ∃ again, Repeats again (Observance.onDay weekend os d) (Observance.onDay weekend os' d) := by
  have nobody : copies.filter (fun o => weekend.covers o.date) = [] := by
    rw [List.filter_eq_nil_iff]
    intro o copied
    simp [business o copied]
  have queue : Observance.waiting weekend os' = Observance.waiting weekend os := by
    have rest := h.filter fun o => weekend.covers o.date
    rw [nobody] at rest
    rw [Observance.waiting, Observance.waiting, rest.eq_of_nil]
  -- On a day that is taken at once the copy comes too; elsewhere the queue is what it was.
  cases covered : weekend.covers d with
  | true =>
    simp only [Observance.onDay, Observance.observed_on_weekend covered]
    exact ⟨[], [], [], rfl, rfl, List.nil_subset _⟩
  | false =>
    by_cases stays : d ∈ Observance.staying weekend os
    · have stays' := (staying_of_repeats h d).mpr stays
      rw [Observance.onDay, Observance.observed_on_staying stays, Observance.onDay,
        Observance.observed_on_staying stays']
      exact ⟨_, h.filter _⟩
    · have free : Observance.Free weekend (Observance.staying weekend os) d := ⟨covered, stays⟩
      have free' : Observance.Free weekend (Observance.staying weekend os') d :=
        ⟨covered, fun held => stays ((staying_of_repeats h d).mp held)⟩
      have same : Observance.onDay weekend os' d = Observance.onDay weekend os d := by
        rw [Observance.onDay, Observance.observed_on_free free', queue,
          Observance.allot_congr (staying_of_repeats h), Observance.onDay,
          Observance.observed_on_free free]
      exact ⟨[], _, [], (List.append_nil _).symm, by simp [same], List.nil_subset _⟩

/-- Copies change nothing unless they wait for a day of their own. -/
theorem finish_of_repeats (range : DateRange)
    (calm : s.policy = .nextAvailable → s.weekend.isWhole = false →
      ∀ o ∈ s.kept copies, s.weekend.covers o.date = false) :
    s.finish range os' = s.finish range os := by
  by_cases policy : s.policy = .nextAvailable
  · cases whole : s.weekend.isWhole with
    | true =>
      rw [finish_eq, finish_eq, observed_eq_observances policy, observed_eq_observances policy,
        Observance.observances_of_whole whole, Observance.observances_of_whole whole]
      exact complete_of_repeats (((kept_repeats h).map _).filterMap _) range
    | false =>
      rw [← finish_inside s range os,
        finish_window_iff policy (⟨Int.le_refl _, Int.le_refl _⟩ : range.Within range)]
      intro d _
      obtain ⟨again, onDay⟩ := onDay_of_staying (kept_repeats h) (calm policy whole) d
      exact complete_of_repeats (onDay.map _) _
  · rw [finish_eq, finish_eq, observed_eq_filterMap policy, observed_eq_filterMap policy]
    exact complete_of_repeats (h.filterMap _) range

end

theorem onDay_of_waiting {weekend : Weekend} {o : Occurrence} {os os' : List Occurrence}
    (h : Repeats [o] os os') (waits : weekend.covers o.date = true) {z : Date}
    (next : IsLeast {d | o.date < d ∧ weekend.covers d = false ∧
      Observance.onDay weekend os d = []} z) : Observance.onDay weekend os' z ≠ [] := by
  obtain ⟨⟨later, business, unobserved⟩, least⟩ := next
  have left {d : Date} : Observance.Free weekend (Observance.claims weekend
      (Observance.staying weekend os) (Observance.waiting weekend os)) d ↔
      weekend.covers d = false ∧ Observance.onDay weekend os d = [] := by
    refine and_congr_right fun covered => ?_
    rw [Observance.mem_claims_iff_observed covered, not_not]
  have found : Observance.nextFree? weekend (Observance.claims weekend
      (Observance.staying weekend os) (Observance.waiting weekend os)) o.date = some z := by
    rw [Observance.nextFree?_eq_some_iff]
    refine ⟨later, left.mpr ⟨business, unobserved⟩, ?_⟩
    intro x after earlier free
    have notLess : z.number ≤ x.number := least ⟨after, left.mp free⟩
    have earlier : x.number < z.number := earlier
    omega
  have queue : (Observance.waiting weekend os').Perm (Observance.waiting weekend os ++ [o]) := by
    have rest := (h.filter fun o => weekend.covers o.date).perm
    have copy : [o].filter (fun o => weekend.covers o.date) = [o] := List.filter_cons_of_pos waits
    rw [copy] at rest
    exact (List.mergeSort_perm _ _).trans
      (rest.trans ((List.mergeSort_perm _ _).symm.append_right [o]))
  -- The order of service does not matter, so the copy may be served last.
  rw [← Observance.mem_claims_iff_observed business,
    Observance.claims_congr (staying_of_repeats h), Observance.mem_claims_perm queue,
    Observance.claims_append]
  simp [Observance.claims, found]

theorem finish_ne_of_waiting {s : Specification} (policy : s.policy = .nextAvailable)
    {o : Occurrence} {os os' : List Occurrence} (h : Repeats [o] os os')
    (shiftable : s.shiftableKeys.contains o.key = true) (waits : s.weekend.covers o.date = true)
    {range : DateRange} {z : Date} (inside : range.Contains z)
    (next : IsLeast {d | o.date < d ∧ s.weekend.covers d = false ∧
      Observance.onDay s.weekend (s.kept os) d = []} z)
    (elsewhere : ∀ δ ∈ s.deltas, δ.date ≠ z) : s.finish range os' ≠ s.finish range os := by
  intro same
  have moved : Repeats [o] (s.kept os) (s.kept os') := by
    have part : s.kept [o] = [o] := List.filter_cons_of_pos (by rw [shiftable, Bool.true_or])
    exact part ▸ kept_repeats h
  have taken := onDay_of_waiting moved waits next
  obtain ⟨⟨-, business, unobserved⟩, -⟩ := next
  rw [← finish_inside s range os,
    finish_window_iff policy (⟨Int.le_refl _, Int.le_refl _⟩ : range.Within range)] at same
  have events := same z inside
  have placed {os : List Occurrence} : ∀ o ∈ os.map (fun o => o.observedOn z), o.date = z := by
    simp
  have free : Observance.Free s.weekend (Observance.staying s.weekend (s.kept os')) z := by
    refine ⟨business, fun stays => ?_⟩
    have stays := (staying_of_repeats moved z).mp stays
    exact (Observance.mem_claims_iff_observed business).mp (Observance.subset_claims _ _ stays)
      unobserved
  rw [eventsOn, eventsOn, unobserved,
    complete_on_business elsewhere business placed (by simpa using Observance.length_onDay free),
    complete_on_business elsewhere business placed (by simp)] at events
  simp [classify, taken] at events

/-- Whether one more copy of a date in the list of a source waits for a day of its own. -/
def ObservedAgain (s : Specification) (range : DateRange) (source : EventSource) (d : Date) :
    Prop :=
  s.policy = .nextAvailable ∧ s.weekend.covers d = true ∧ s.weekend.isWhole = false ∧
    s.shiftableKeys.contains source.key = true ∧ source.isActiveIn d.year = true ∧
    (s.expansionRange range).Contains d

theorem calm_of_not_observedAgain {s : Specification} {range : DateRange} {source : EventSource}
    {e : NotedDate} (once : ¬ s.ObservedAgain range source e.date) :
    s.policy = .nextAvailable → s.weekend.isWhole = false →
      ∀ o ∈ s.kept (source.explicitDays (s.expansionRange range) [e]),
        s.weekend.covers o.date = false := by
  intro policy business o copied
  cases waits : s.weekend.covers o.date with
  | false => rfl
  | true =>
    refine absurd ?_ once
    obtain ⟨shown, moves⟩ := List.mem_filter.mp copied
    obtain ⟨noted, active⟩ := List.mem_filter.mp shown
    obtain ⟨d, near, rfl⟩ := List.mem_map.mp noted
    obtain ⟨own, inside⟩ := List.mem_filter.mp near
    obtain rfl := List.mem_singleton.mp own
    have shiftable : s.shiftableKeys.contains source.key = true := by
      simpa only [waits, Bool.not_true, Bool.or_false] using moves
    exact ⟨policy, waits, business, shiftable, active, of_decide_eq_true inside⟩

theorem explicitDays_of_observedAgain {s : Specification} {range : DateRange}
    {source : EventSource} {e : NotedDate} (again : s.ObservedAgain range source e.date) :
    source.explicitDays (s.expansionRange range) [e] =
      [⟨source.key, e.date, Expander.explicitName source e, "rule:" ++ source.key⟩] := by
  obtain ⟨-, -, -, -, active, inside⟩ := again
  simp [EventSource.explicitDays, inside, active]

section

variable {s : Specification} {before after : List EventSource} {source : EventSource}
  (listed : s.sources = before ++ source :: after) {ds : List NotedDate}
  (ruled : source.rule = .explicitDates ds)

include listed ruled

theorem validate_withDates (ds' : List NotedDate) (registry : Registry) :
    (s.withSources (before ++ source.withDates ds' :: after)).validate registry =
      s.validate registry := by
  have unnamed : (source.withDates ds').rule.system? = none := rfl
  have unnamed' : source.rule.system? = none := by rw [ruled]; rfl
  have same : (s.withSources (before ++ source.withDates ds' :: after)).systems = s.systems := by
    simp only [systems, withSources, listed, List.filterMap_append, List.filterMap_cons, unnamed,
      unnamed', system]
  rw [validate, same, validate]

theorem generate_withDates_cases {e : NotedDate} (held : e ∈ ds) (registry : Registry)
    {first last : Date} (ordered : first ≤ last) :
    (∃ err, s.generate registry first last = .error err ∧
      (s.withSources (before ++ source.withDates (ds ++ [e]) :: after)).generate registry
        first last = .error err) ∨
    ∃ os os', s.expand registry (s.expansionRange ⟨first, last, ordered⟩) = .ok os ∧
      s.generate registry first last = .ok (s.finish ⟨first, last, ordered⟩ os) ∧
      (s.withSources (before ++ source.withDates (ds ++ [e]) :: after)).generate registry
        first last = .ok (s.finish ⟨first, last, ordered⟩ os') ∧
      Repeats (source.explicitDays (s.expansionRange ⟨first, last, ordered⟩) [e]) os os' := by
  have valid' := validate_withDates listed ruled (ds ++ [e]) registry
  cases valid : s.validate registry with
  | error err =>
    rw [valid] at valid'
    exact .inl ⟨err, (generate_eq_error_iff ordered).mpr (.inl valid),
      (generate_eq_error_iff ordered).mpr (.inl valid')⟩
  | ok _ =>
    rw [valid] at valid'
    rcases expand_withDates listed ruled held registry
        (s.expansionRange ⟨first, last, ordered⟩) with
      ⟨err, failed, failed'⟩ | ⟨os, os', expanded, expanded', repeated⟩
    · exact .inl ⟨err, (generate_eq_error_iff ordered).mpr (.inr ⟨valid, failed⟩),
        (generate_eq_error_iff ordered).mpr (.inr ⟨valid', failed'⟩)⟩
    · refine .inr ⟨os, os', expanded, ?_, ?_, repeated⟩
      · exact (generate_eq_ok_iff ordered).mpr ⟨valid, os, expanded, rfl⟩
      · exact (generate_eq_ok_iff ordered).mpr
          ⟨valid', os', expanded', finish_withDates listed ruled _ _ _⟩

/-- One more copy of a date changes the events only where it is observed again: holidays on weekend
days take days of their own, and it is one of these that may move. There it does so where the day
that it takes is in the range and no delta is dated on it. The errors are the same in every case. -/
theorem generate_withDates {e : NotedDate} (held : e ∈ ds) (registry : Registry)
    (first last : Date) :
    (∀ err, (s.withSources (before ++ source.withDates (ds ++ [e]) :: after)).generate registry
        first last = .error err ↔ s.generate registry first last = .error err) ∧
    ((∀ ordered : first ≤ last, ¬ s.ObservedAgain ⟨first, last, ordered⟩ source e.date) →
      (s.withSources (before ++ source.withDates (ds ++ [e]) :: after)).generate registry
        first last = s.generate registry first last) ∧
    ∀ (ordered : first ≤ last) (os : List Occurrence) (z : Date),
      s.ObservedAgain ⟨first, last, ordered⟩ source e.date → s.validate registry = .ok () →
      s.expand registry (s.expansionRange ⟨first, last, ordered⟩) = .ok os →
      IsLeast {d | e.date < d ∧ s.weekend.covers d = false ∧
        Observance.onDay s.weekend (s.kept os) d = []} z →
      first ≤ z → z ≤ last → (∀ δ ∈ s.deltas, δ.date ≠ z) →
      (s.withSources (before ++ source.withDates (ds ++ [e]) :: after)).generate registry
        first last ≠ s.generate registry first last := by
  by_cases ordered : first ≤ last
  · rcases generate_withDates_cases listed ruled held registry ordered with
      ⟨err, failed, failed'⟩ | ⟨os, os', expanded, generated, generated', repeated⟩
    · rw [failed, failed']
      refine ⟨fun _ => Iff.rfl, fun _ => rfl, ?_⟩
      intro _ os _ _ valid expanded
      have run := (generate_eq_ok_iff ordered).mpr ⟨valid, os, expanded, rfl⟩
      rw [failed] at run
      cases run
    · rw [generated, generated']
      refine ⟨by simp, ?_, ?_⟩
      · intro once
        rw [finish_of_repeats repeated _ (calm_of_not_observedAgain (once ordered))]
      · intro _ os'' z again _ expanded'' next low high elsewhere same
        obtain rfl : os'' = os := Except.ok.inj (expanded''.symm.trans expanded)
        rw [explicitDays_of_observedAgain again] at repeated
        obtain ⟨policy, waits, -, shiftable, -, -⟩ := again
        exact finish_ne_of_waiting policy repeated shiftable waits ⟨low, high⟩ next elsewhere
          (Except.ok.inj same)
  · rw [generate_inverted ordered, generate_inverted ordered]
    exact ⟨fun _ => Iff.rfl, fun _ => rfl, fun ordered' => absurd ordered' ordered⟩

end

/-- 2022-01-01. -/
def newYearSaturday : Date := (Date.ofNumber? 738156).getD .first

def newYearSource : EventSource where
  key := "new-year"
  name := "New Year"
  rule := .explicitDates [⟨newYearSaturday, none⟩]
  classification := none
  shiftable := some true
  activeYears := none

def newYearOnly (policy : ShiftPolicy) : Specification where
  id := "new-year-only"
  metadata := .empty
  weekend := .satSun
  policy := policy
  references := []
  sources := [newYearSource]
  classifications := []
  deltas := []
  chain := []

def newYearTwice (policy : ShiftPolicy) : Specification :=
  (newYearOnly policy).withSources
    [newYearSource.withDates ([⟨newYearSaturday, none⟩] ++ [⟨newYearSaturday, none⟩])]

/-- A second New Year's Day is not seen where it moves to the nearest business day, and gets the
Tuesday where it moves to the next that is free. -/
theorem generate_withDates_newYear :
    (newYearTwice .nearest).generate .defaults (newYearSeason 2) (newYearSeason 3) =
      (newYearOnly .nearest).generate .defaults (newYearSeason 2) (newYearSeason 3) ∧
    (newYearTwice .nextAvailable).generate .defaults (newYearSeason 2) (newYearSeason 3) ≠
      (newYearOnly .nextAvailable).generate .defaults (newYearSeason 2) (newYearSeason 3) := by
  have listed (policy : ShiftPolicy) :
    (newYearOnly policy).sources = [] ++ newYearSource :: [] := rfl
  have ruled : newYearSource.rule = .explicitDates [⟨newYearSaturday, none⟩] := rfl
  have held : (⟨newYearSaturday, none⟩ : NotedDate) ∈ [⟨newYearSaturday, none⟩] :=
    List.mem_cons_self
  constructor
  · obtain ⟨-, unchanged, -⟩ := generate_withDates (listed .nearest) ruled held .defaults
      (newYearSeason 2) (newYearSeason 3)
    refine unchanged fun _ again => ?_
    have policy : ShiftPolicy.nearest = .nextAvailable := again.1
    cases policy
  · obtain ⟨-, -, changed⟩ := generate_withDates (listed .nextAvailable) ruled held .defaults
      (newYearSeason 2) (newYearSeason 3)
    refine changed (by decide) [⟨"new-year", newYearSaturday, "New Year", "rule:new-year"⟩]
      (newYearSeason 3) ⟨rfl, by decide, by decide, by decide, by decide, by decide⟩ rfl
      (by decide +kernel) ⟨⟨by decide, by decide, by decide +kernel⟩, ?_⟩ (by decide) (by decide)
      (by simp [newYearOnly])
    rintro d ⟨after, business, unobserved⟩
    by_cases late : newYearSeason 3 ≤ d
    · exact late
    · have after : (newYearSaturday).number < d.number := after
      have late : ¬ (newYearSeason 3).number ≤ d.number := late
      have low : (newYearSaturday).number = 738156 := by decide
      have high : (newYearSeason 3).number = 738159 := by decide
      have near : d = newYearSeason 1 ∨ d = newYearSeason 2 := by
        have second : (newYearSeason 1).number = 738157 := by decide
        have third : (newYearSeason 2).number = 738158 := by decide
        by_cases sunday : d.number = 738157
        · exact .inl (Date.ext_number (sunday.trans second.symm))
        · exact .inr (Date.ext_number (by omega))
      rcases near with rfl | rfl
      · exact absurd business (by decide)
      · have taken : (Observance.onDay (newYearOnly .nextAvailable).weekend
            ((newYearOnly .nextAvailable).kept
              [⟨"new-year", newYearSaturday, "New Year", "rule:new-year"⟩])
            (newYearSeason 2)).length = 1 := by decide +kernel
        rw [unobserved] at taken
        cases taken

/-- A repeated date is not always one holiday: the second Saturday is observed on the Tuesday. -/
theorem generate_withDates_newYearTwice :
    ¬ ∀ (s : Specification) (before after : List EventSource) (source : EventSource)
      (ds : List NotedDate) (e : NotedDate) (registry : Registry) (first last : Date),
      s.sources = before ++ source :: after → source.rule = .explicitDates ds → e ∈ ds →
      (s.withSources (before ++ source.withDates (ds ++ [e]) :: after)).generate registry first
        last = s.generate registry first last := by
  intro once
  have same := once (newYearOnly .nextAvailable) [] [] newYearSource
    [⟨newYearSaturday, none⟩] ⟨newYearSaturday, none⟩ .defaults (newYearSeason 2)
    (newYearSeason 3) rfl rfl List.mem_cons_self
  have one : (newYearOnly .nextAvailable).generate .defaults (newYearSeason 2)
      (newYearSeason 3) =
      .ok [⟨newYearSeason 2, .closed, "New Year", "rule:new-year;observed-from=2022-01-01"⟩] := by
    simp only [generate, finish_eq_insertionSort, observed, Observance.apply,
      Observance.targets.eq_def, Observance.nextAvailable, Observance.pending_eq_insertionSort]
    decide +kernel
  have two : (newYearTwice .nextAvailable).generate .defaults (newYearSeason 2)
      (newYearSeason 3) =
      .ok [⟨newYearSeason 2, .closed, "New Year", "rule:new-year;observed-from=2022-01-01"⟩,
        ⟨newYearSeason 3, .closed, "New Year", "rule:new-year;observed-from=2022-01-01"⟩] := by
    simp only [generate, finish_eq_insertionSort, observed, Observance.apply,
      Observance.targets.eq_def, Observance.nextAvailable, Observance.pending_eq_insertionSort]
    decide +kernel
  rw [one] at same
  have lengths := congrArg (fun r => (r.toOption.getD []).length) (two.symm.trans same)
  exact absurd lengths (by decide)

end Specification

end Holidays
