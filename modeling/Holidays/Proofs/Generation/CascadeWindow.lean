import Holidays.Proofs.Civil.DateText
import Holidays.Proofs.Generation.CivilDays
import Holidays.Proofs.Generation.Deltas
import Holidays.Proofs.Observance.Cascade

/-!
Events of a part of a range where holidays move on to the next day that is free. The padding shows
seven days before the range, and a cascade can be longer: the events of the part are those of the
range cut to it just if the cascades are interrupted on one of these days, or no day is free anyway.
-/
namespace Holidays

def DateRange.day (d : Date) : DateRange := ⟨d, d, Int.le_refl _⟩

theorem DateRange.contains_day {d x : Date} : (day d).Contains x ↔ x = d := by
  constructor
  · rintro ⟨low, high⟩
    exact Date.ext_number (Int.le_antisymm high low)
  · rintro rfl
    exact ⟨Int.le_refl _, Int.le_refl _⟩

theorem DateRange.Contains.day_within {range : DateRange} {d : Date} (h : range.Contains d) :
    (DateRange.day d).Within range := h

theorem mem_of_days {es fs : List Event}
    (same : ∀ d, es.filter (fun e => (DateRange.day d).Contains e.date) =
      fs.filter fun e => (DateRange.day d).Contains e.date) {e : Event} : e ∈ es ↔ e ∈ fs := by
  have own (l : List Event) :
      e ∈ l.filter (fun x => (DateRange.day e.date).Contains x.date) ↔ e ∈ l := by
    simp [DateRange.contains_day]
  rw [← own es, same, own]

theorem eq_of_days {es fs : List Event} (sorted : es.Pairwise fun x y => x.date ≤ y.date)
    (sorted' : fs.Pairwise fun x y => x.date ≤ y.date)
    (same : ∀ d, es.filter (fun e => (DateRange.day d).Contains e.date) =
      fs.filter fun e => (DateRange.day d).Contains e.date) : es = fs := by
  induction es generalizing fs with
  | nil =>
    cases fs with
    | nil => rfl
    | cons f fs => cases (mem_of_days same).2 List.mem_cons_self
  | cons e es ih =>
    cases fs with
    | nil => cases (mem_of_days same).1 List.mem_cons_self
    | cons f fs =>
      rw [List.pairwise_cons] at sorted sorted'
      have order : e.date ≤ f.date := by
        rcases List.mem_cons.1 ((mem_of_days same).2 List.mem_cons_self) with rfl | later
        · exact Int.le_refl _
        · exact sorted.1 f later
      have order' : f.date ≤ e.date := by
        rcases List.mem_cons.1 ((mem_of_days same).1 List.mem_cons_self) with rfl | later
        · exact Int.le_refl _
        · exact sorted'.1 e later
      have dates : f.date = e.date := Date.ext_number (Int.le_antisymm order' order)
      have first := same e.date
      rw [List.filter_cons_of_pos (by simp [DateRange.contains_day]),
        List.filter_cons_of_pos (by simp [DateRange.contains_day, dates])] at first
      obtain rfl := (List.cons.inj first).1
      rw [ih sorted.2 sorted'.2]
      intro d
      have whole := same d
      by_cases here : (DateRange.day d).Contains e.date
      · rw [List.filter_cons_of_pos (by simpa using here),
          List.filter_cons_of_pos (by simpa using here)] at whole
        exact (List.cons.inj whole).2
      · rwa [List.filter_cons_of_neg (by simpa using here),
          List.filter_cons_of_neg (by simpa using here)] at whole

namespace Specification

def kept (s : Specification) (os : List Occurrence) : List Occurrence :=
  os.filter fun o => s.shiftableKeys.contains o.key || !s.weekend.covers o.date

/-- Some day in the padding before a range, or its first day, is crossed by no cascade, or else
every day of the range is a weekend day or a holiday in its own right. -/
def Interrupted (s : Specification) (os : List Occurrence) (range : DateRange) : Prop :=
  (∃ c : Date, range.first.number - shiftPadding ≤ c.number ∧ c ≤ range.first ∧
    Observance.Clear (Observance.observances s.weekend (s.kept os)) c) ∨
  ∀ d, range.Contains d → s.weekend.covers d = true ∨ ∃ o ∈ s.kept os, o.date = d

theorem observed_eq_observances {s : Specification} (policy : s.policy = .nextAvailable)
    (range : DateRange) (os : List Occurrence) :
    s.observed range os = (Observance.observances s.weekend (s.kept os)).filterMap fun x =>
      (x.2.filter fun d => range.Contains d).map x.1.observedOn := by
  have other : ¬ ShiftPolicy.nextAvailable = ShiftPolicy.none := by decide
  rw [observed, Observance.apply, policy, if_neg other, List.filter_filterMap]
  exact List.filterMap_congr fun x _ => Observance.filter_move? range x.1 x.2

theorem observed_on_day {s : Specification} (policy : s.policy = .nextAvailable)
    {range : DateRange} (os : List Occurrence) {d : Date} (inside : range.Contains d) :
    (s.observed range os).filter (fun o => (DateRange.day d).Contains o.date) =
      (Observance.onDay s.weekend (s.kept os) d).map fun o => o.observedOn d := by
  rw [observed_eq_observances policy, List.filter_filterMap, Observance.onDay, List.map_map,
    ← List.filterMap_eq_map, List.filterMap_filter]
  apply List.filterMap_congr
  rintro ⟨o, r⟩ _
  cases r with
  | none => simp
  | some t =>
    by_cases here : t = d
    · subst here
      simp [Option.filter_some, inside, DateRange.contains_day]
    · by_cases within : range.Contains t <;>
        simp [Option.filter_some, within, DateRange.contains_day, here]

theorem finish_sorted (s : Specification) (range : DateRange) (os : List Occurrence) :
    (s.finish range os).Pairwise fun x y => x.date ≤ y.date := by
  have sorted := List.pairwise_mergeSort (byDate_trans Event.date) (byDate_total Event.date)
    (Event.fillWeekends s.weekend range
      (s.classify (Delta.applyAll s.sources range (s.observed range os) s.deltas)))
  exact sorted.imp fun h => of_decide_eq_true h

def eventsOn (s : Specification) (os : List Occurrence) (d : Date) : List Event :=
  s.complete (.day d) ((Observance.onDay s.weekend (s.kept os) d).map fun o => o.observedOn d)

theorem finish_on_day {s : Specification} (policy : s.policy = .nextAvailable) {range : DateRange}
    (os : List Occurrence) {d : Date} (inside : range.Contains d) :
    (s.finish range os).filter (fun e => (DateRange.day d).Contains e.date) = s.eventsOn os d := by
  rw [finish_eq, filter_complete inside.day_within, observed_on_day policy os inside, eventsOn]

theorem finish_inside (s : Specification) (range : DateRange) (os : List Occurrence) :
    (s.finish range os).filter (fun e => range.Contains e.date) = s.finish range os := by
  have within : range.Within range := ⟨Int.le_refl _, Int.le_refl _⟩
  rw [finish_eq, filter_complete within, observed, List.filter_filter]
  simp only [Bool.and_self]

theorem finish_window_iff {s : Specification} (policy : s.policy = .nextAvailable)
    {inner outer : DateRange} (within : inner.Within outer) (os os' : List Occurrence) :
    s.finish inner os = (s.finish outer os').filter (fun e => inner.Contains e.date) ↔
      ∀ d, inner.Contains d → s.eventsOn os d = s.eventsOn os' d := by
  have part {d : Date} (inside : inner.Contains d) :
      ((s.finish outer os').filter fun e => inner.Contains e.date).filter
        (fun e => (DateRange.day d).Contains e.date) =
      (s.finish outer os').filter fun e => (DateRange.day d).Contains e.date := by
    rw [List.filter_filter]
    apply List.filter_congr
    intro e _
    by_cases here : e.date = d
    · simp [DateRange.contains_day, here, inside]
    · simp [DateRange.contains_day, here]
  have outside {es : List Event} (cut : es.filter (fun e => inner.Contains e.date) = es)
      {d : Date} (away : ¬ inner.Contains d) :
      es.filter (fun e => (DateRange.day d).Contains e.date) = [] := by
    rw [← cut, List.filter_filter, List.filter_eq_nil_iff]
    intro e _ both
    simp only [DateRange.contains_day, Bool.and_eq_true, decide_eq_true_eq] at both
    exact away (both.1 ▸ both.2)
  constructor
  · intro same d inside
    rw [← finish_on_day policy os inside, same, part inside,
      finish_on_day policy os' (within.contains inside)]
  · intro days
    -- Both sides are sorted, so it is enough to compare them day by day.
    apply eq_of_days (finish_sorted s inner os) ((finish_sorted s outer os').filter _)
    intro d
    by_cases inside : inner.Contains d
    · rw [part inside, finish_on_day policy os inside, days d inside,
        finish_on_day policy os' (within.contains inside)]
    · have whole : ((s.finish outer os').filter fun e => inner.Contains e.date).filter
          (fun e => inner.Contains e.date) =
          (s.finish outer os').filter fun e => inner.Contains e.date := by
        rw [List.filter_filter]
        simp only [Bool.and_self]
      rw [outside (finish_inside s inner os) inside, outside whole inside]

theorem complete_on_business {s : Specification} {d : Date}
    (elsewhere : ∀ δ ∈ s.deltas, δ.date ≠ d) (business : s.weekend.covers d = false)
    {os : List Occurrence} (placed : ∀ o ∈ os, o.date = d) (short : os.length ≤ 1) :
    s.complete (.day d) os = s.classify os := by
  have once : Delta.applyAll s.sources (.day d) os s.deltas = os := by
    rw [Delta.applyAll_elsewhere (fun δ held => fun inside =>
        elsewhere δ held (DateRange.contains_day.1 inside))
      fun o held => DateRange.contains_day.2 (placed o held)]
    cases os with
    | nil => rfl
    | cons o os =>
      obtain rfl : os = [] := List.eq_nil_of_length_eq_zero (by simpa using short)
      rfl
  have fill : Event.fillWeekends s.weekend (.day d) (s.classify os) = s.classify os := by
    have nothing : (DateRange.day d).days.filter (fun x => s.weekend.covers x &&
        !((s.classify os).map Event.date).contains x) = [] := by
      rw [List.filter_eq_nil_iff]
      intro x listed
      rw [DateRange.contains_day.1 (DateRange.mem_days.1 listed).1, business]
      simp
    rw [Event.fillWeekends, nothing]
    simp
  rw [complete, once, fill]
  cases os with
  | nil => simp [classify]
  | cons o os =>
    obtain rfl : os = [] := List.eq_nil_of_length_eq_zero (by simpa using short)
    simp [classify]

end Specification

/-- The key and the original day of a moved occurrence can be read off its provenance. -/
theorem Occurrence.pair_of_observedOn {o p : Occurrence} {d : Date} (moved : d ≠ o.date)
    (moved' : d ≠ p.date) (ruled : o.provenance = "rule:" ++ o.key)
    (ruled' : p.provenance = "rule:" ++ p.key)
    (same : (o.observedOn d).provenance = (p.observedOn d).provenance) : o.pair = p.pair := by
  simp only [observedOn, if_neg moved, if_neg moved', ruled, ruled', Date.text] at same
  have mark : ";observed-from=".toList = ";observed-from".toList ++ ['='] := by decide
  have spelled (key : String) (chars : List Char) :
      ("rule:" ++ key ++ ";observed-from=" ++ String.ofList chars).toList =
        ("rule:".toList ++ (key.toList ++ ";observed-from".toList)) ++ '=' :: chars := by
    simp only [String.toList_append, String.toList_ofList, mark, List.append_assoc,
      List.cons_append, List.nil_append]
  have chars := congrArg String.toList same
  rw [spelled, spelled] at chars
  obtain ⟨front, dates⟩ :=
    append_cons_inj_of_last chars o.date.equals_not_mem_chars p.date.equals_not_mem_chars
  have keys := List.append_cancel_right (List.append_cancel_left front)
  exact Prod.ext (String.toList_inj.1 keys) (Date.chars_inj dates)

theorem Date.exists_least {p : Date → Prop} {a : Date} (h : ∃ d, a ≤ d ∧ p d) :
    ∃ d, a ≤ d ∧ p d ∧ ∀ x, a ≤ x → x < d → ¬ p x := by
  have bounded : ∀ n : Nat, ∀ d : Date, a ≤ d → d.number < a.number + n → p d →
      ∃ d, a ≤ d ∧ p d ∧ ∀ x, a ≤ x → x < d → ¬ p x := by
    intro n
    induction n with
    | zero =>
      intro d after below
      have after : a.number ≤ d.number := after
      omega
    | succ n ih =>
      intro d after below holds
      by_cases least : ∀ x, a ≤ x → x < d → ¬ p x
      · exact ⟨d, after, holds, least⟩
      · simp only [not_forall, not_not] at least
        obtain ⟨x, start, before, holds'⟩ := least
        have before : x.number < d.number := before
        exact ih x start (by omega) holds'
  obtain ⟨d, after, holds⟩ := h
  have after' : a.number ≤ d.number := after
  exact bounded (d.number + 1 - a.number).toNat d after (by omega) holds

namespace Specification

/-- On a free day the events tell which holiday was moved to it. -/
theorem mem_onDay_of_eventsOn {s : Specification} (plain : s.deltas = [])
    {os os' : List Occurrence} (pairs : (os'.map Occurrence.pair).Nodup)
    (ruled : ∀ o ∈ os', o.provenance = "rule:" ++ o.key)
    (known : ∀ p ∈ s.kept os, p ∈ s.kept os') {d : Date}
    (free : Observance.Free s.weekend (Observance.staying s.weekend (s.kept os)) d)
    (free' : Observance.Free s.weekend (Observance.staying s.weekend (s.kept os')) d)
    (same : s.eventsOn os d = s.eventsOn os' d) {o : Occurrence}
    (h : o ∈ Observance.onDay s.weekend (s.kept os') d) :
    o ∈ Observance.onDay s.weekend (s.kept os) d := by
  have elsewhere : ∀ δ ∈ s.deltas, δ.date ≠ d := by simp [plain]
  have placed {os : List Occurrence} : ∀ o ∈ os.map (fun o => o.observedOn d), o.date = d := by
    simp
  rw [eventsOn, eventsOn,
    complete_on_business elsewhere free.1 placed (by simpa using Observance.length_onDay free),
    complete_on_business elsewhere free.1 placed
      (by simpa using Observance.length_onDay free')] at same
  have event : (⟨(o.observedOn d).date, s.classificationOf (o.observedOn d),
      (o.observedOn d).name, (o.observedOn d).provenance⟩ : Event) ∈
      s.classify ((Observance.onDay s.weekend (s.kept os) d).map fun o => o.observedOn d) := by
    rw [same, classify, List.map_map]
    exact List.mem_map.2 ⟨o, h, rfl⟩
  rw [classify, List.map_map] at event
  obtain ⟨p, listed, there⟩ := List.mem_map.1 event
  have provenance : (p.observedOn d).provenance = (o.observedOn d).provenance :=
    congrArg Event.provenance there
  have held : p ∈ os' := (List.mem_filter.1
    (known p (Observance.mem_of_mem_observances (Observance.mem_onDay.1 listed)))).1
  have held' : o ∈ os' := (List.mem_filter.1
    (Observance.mem_of_mem_observances (Observance.mem_onDay.1 h))).1
  have moved {x : Occurrence} (waits : s.weekend.covers x.date = true) : d ≠ x.date := by
    rintro rfl
    rw [free.1] at waits
    cases waits
  have pair : p.pair = o.pair := Occurrence.pair_of_observedOn
    (moved (Observance.waiting_of_observed_on_free free listed))
    (moved (Observance.waiting_of_observed_on_free free' h)) (ruled p held) (ruled o held')
    provenance
  exact List.inj_on_of_nodup_map pairs held held' pair ▸ listed

section

variable {s : Specification} (policy : s.policy = .nextAvailable) {inner outer : DateRange}
  (within : inner.Within outer) {os os' : List Occurrence}
  (cut : s.kept os = (s.kept os').filter fun o => Observance.near
    (inner.first.number - shiftPadding) (inner.last.number + shiftPadding) o.date)

include policy within cut

theorem finish_window_of_interrupted (interrupted : s.Interrupted os' inner) :
    s.finish inner os = (s.finish outer os').filter fun e => inner.Contains e.date := by
  rw [finish_window_iff policy within]
  intro d inside
  have low : inner.first.number ≤ d.number := inside.1
  have high : d.number ≤ inner.last.number := inside.2
  rw [eventsOn, cut, Observance.onDay_near (by omega) (by omega), eventsOn]
  intro free
  rcases interrupted with ⟨c, start, before, clear⟩ | taken
  · exact ⟨c, start, Int.le_trans before inside.1, clear⟩
  · rcases taken d inside with covered | ⟨o, held, here⟩
    · rw [free.1] at covered
      cases covered
    · exact absurd (Observance.mem_staying.2 ⟨⟨o, held, here⟩, free.1⟩) free.2

theorem interrupted_of_finish_window (plain : s.deltas = [])
    (pairs : (os'.map Occurrence.pair).Nodup)
    (ruled : ∀ o ∈ os', o.provenance = "rule:" ++ o.key)
    (same : s.finish inner os = (s.finish outer os').filter fun e => inner.Contains e.date) :
    s.Interrupted os' inner := by
  by_cases taken : ∃ d, inner.first ≤ d ∧ d ≤ inner.last ∧
      Observance.Free s.weekend (Observance.staying s.weekend (s.kept os')) d
  · -- A cascade that crosses the first day ends on the first free day, and its event shows there.
    obtain ⟨d, after, ⟨before, free⟩, least⟩ := Date.exists_least taken
    have high : d.number ≤ inner.last.number := before
    by_cases clear : Observance.Clear (Observance.observances s.weekend (s.kept os')) inner.first
    · exact .inl ⟨inner.first, by omega, Int.le_refl _, clear⟩
    · obtain ⟨o, inWide, early⟩ := Observance.first_free_taken free after (fun x start less free' =>
        least x start less ⟨Int.le_trans (Int.le_of_lt less) before, free'⟩) clear
      have freeNear : Observance.Free s.weekend (Observance.staying s.weekend (s.kept os)) d := by
        rw [cut]
        exact Observance.free_near free
      have days := (finish_window_iff policy within os os').1 same d ⟨after, before⟩
      have known : ∀ p ∈ s.kept os, p ∈ s.kept os' := by
        intro p held
        rw [cut] at held
        exact (List.mem_filter.1 held).1
      have inNarrow := mem_onDay_of_eventsOn plain pairs ruled known freeNear free days inWide
      rw [cut] at inNarrow
      obtain ⟨c, start, notLater, clear⟩ := Observance.exists_clear_of_onDay
        ((List.Nodup.of_map _ pairs).filter _) free (by omega) inNarrow inWide
      exact .inl ⟨c, start, Int.le_of_lt (Int.lt_of_le_of_lt notLater early), clear⟩
  · right
    intro d inside
    cases covered : s.weekend.covers d with
    | true => exact .inl rfl
    | false =>
      right
      by_cases stays : d ∈ Observance.staying s.weekend (s.kept os')
      · exact (Observance.mem_staying.1 stays).1
      · exact absurd ⟨d, inside.1, inside.2, covered, stays⟩ taken

end

theorem expansionRange_of_nextAvailable {s : Specification} (policy : s.policy = .nextAvailable)
    (range : DateRange) : s.expansionRange range = range.widen shiftPadding := by
  rw [expansionRange, policy, if_neg (by decide)]

theorem kept_filter (s : Specification) (p : Occurrence → Bool) (os : List Occurrence) :
    s.kept (os.filter p) = (s.kept os).filter p := by
  rw [kept, kept, List.filter_filter, List.filter_filter]
  exact List.filter_congr fun o _ => Bool.and_comm _ _

theorem mem_expand_civil {s : Specification}
    (civil : ∀ source ∈ s.sources, source.IsCivilDay s.system) {registry : Registry}
    {range : DateRange} {os : List Occurrence} (expanded : s.expand registry range = .ok os) :
    os = s.sources.flatMap (EventSource.civilDays · range) := by
  rw [expand_civil civil] at expanded
  cases dated : ReferenceDates.ofReferences registry range s.references with
  | error e =>
    rw [dated] at expanded
    cases expanded
  | ok table =>
    rw [dated] at expanded
    exact (Except.ok.inj expanded).symm

/-- Over a narrower range generation fails just as over a wider one. Where it does not, it gives the
events of the wider range cut to the narrower one if the cascades are interrupted before it; and
only then, where no key is repeated. -/
theorem generate_window_cascade {registry : Registry} (reachable : registry.Reachable)
    {s : Specification} (policy : s.policy = .nextAvailable)
    (civil : ∀ source ∈ s.sources, source.IsCivilDay s.system) (plain : s.deltas = [])
    {first a b last : Date} (low : first ≤ a) (ordered : a ≤ b) (high : b ≤ last)
    (early : 0 ≤ first.year) (late : last.year ≤ 9999) :
    (∀ e, s.generate registry a b = .error e ↔ s.generate registry first last = .error e) ∧
    ∀ wide narrow os, s.generate registry first last = .ok wide →
      s.generate registry a b = .ok narrow →
      s.expand registry (s.expansionRange ⟨first, last,
        Int.le_trans low (Int.le_trans ordered high)⟩) = .ok os →
      (s.Interrupted os ⟨a, b, ordered⟩ →
        narrow = wide.filter fun e => a ≤ e.date ∧ e.date ≤ b) ∧
      ((s.sources.map EventSource.key).Nodup →
        narrow = wide.filter (fun e => a ≤ e.date ∧ e.date ≤ b) →
        s.Interrupted os ⟨a, b, ordered⟩) := by
  have whole : first ≤ last := Int.le_trans low (Int.le_trans ordered high)
  constructor
  · intro e
    rw [generate_eq_error_iff ordered, generate_eq_error_iff whole]
    exact or_congr Iff.rfl (and_congr Iff.rfl
      ⟨expand_error civil reachable _, expand_error civil reachable _⟩)
  · intro wide narrow os hw hn expanded
    obtain ⟨-, os', expanded', rfl⟩ := (generate_eq_ok_iff ordered).1 hn
    obtain ⟨-, os'', expanded'', rfl⟩ := (generate_eq_ok_iff whole).1 hw
    obtain rfl : os'' = os := Except.ok.inj (expanded''.symm.trans expanded)
    have within : DateRange.Within ⟨a, b, ordered⟩ ⟨first, last, whole⟩ := ⟨low, high⟩
    have near : ∀ source ∈ s.sources, source.rule.StaysNear := by
      intro source held
      obtain ⟨month, day, named, ruled, -⟩ := civil source held
      rw [ruled]
      trivial
    have years : 0 ≤ (s.expansionRange ⟨first, last, whole⟩).first.year + 1 ∧
        (s.expansionRange ⟨first, last, whole⟩).last.year ≤ 10000 := expansionRange_years early late
    have part := expand_within reachable near (expansionRange_within within) years.1 years.2
      expanded' expanded
    have cut : s.kept os' = (s.kept os'').filter fun o => Observance.near
        (a.number - shiftPadding) (b.number + shiftPadding) o.date := by
      rw [part, kept_filter, expansionRange_of_nextAvailable policy]
      exact List.filter_congr fun o _ => decide_eq_decide.2 DateRange.mem_widen
    constructor
    · intro interrupted
      exact finish_window_of_interrupted policy within cut interrupted
    · intro distinct same
      have explicit := mem_expand_civil civil expanded
      have pairs : (os''.map Occurrence.pair).Nodup := by
        rw [explicit]
        exact EventSource.pairs_nodup distinct _
      have ruled : ∀ o ∈ os'', o.provenance = "rule:" ++ o.key := by
        intro o held
        rw [explicit, List.mem_flatMap] at held
        obtain ⟨source, -, there⟩ := held
        obtain ⟨key, provenance⟩ := EventSource.mem_civilDays there
        rw [provenance, key]
      exact interrupted_of_finish_window policy within cut plain pairs ruled same

/-- The days from 2022-01-01, a Saturday, to January 10. -/
def newYearSeason (day : Fin 10) : Date := (Date.ofNumber? (738156 + day)).getD .first

def longNewYear : Specification where
  id := "long-new-year"
  metadata := .empty
  weekend := .satSun
  policy := .nextAvailable
  references := []
  sources :=
    [⟨"new-year", "New Year", .fixedMonthDay 1 1 none, none, none, none⟩,
      ⟨"second-day", "Second Day", .fixedMonthDay 1 2 none, none, none, none⟩]
  classifications := []
  deltas := []
  chain := []

def longNewYearEvents : List Event :=
  [.ofWeekendDay (newYearSeason 0), .ofWeekendDay (newYearSeason 1),
    ⟨newYearSeason 2, .closed, "New Year", "rule:new-year;observed-from=2022-01-01"⟩,
    ⟨newYearSeason 3, .closed, "Second Day", "rule:second-day;observed-from=2022-01-02"⟩]

/-- The second day stays on the Tuesday when only that day is asked for: nothing comes before the
Saturday. -/
theorem generate_window_longNewYear :
    longNewYear.generate .defaults (newYearSeason 0) (newYearSeason 4) = .ok longNewYearEvents ∧
    longNewYear.generate .defaults (newYearSeason 3) (newYearSeason 3) =
      .ok (longNewYearEvents.filter fun e =>
        newYearSeason 3 ≤ e.date ∧ e.date ≤ newYearSeason 3) := by
  have wide : longNewYear.generate .defaults (newYearSeason 0) (newYearSeason 4) =
      .ok longNewYearEvents := by
    simp only [generate, finish_eq_insertionSort, observed, Observance.apply,
      Observance.targets.eq_def, Observance.nextAvailable, Observance.pending_eq_insertionSort]
    decide +kernel
  have narrow : longNewYear.generate .defaults (newYearSeason 3) (newYearSeason 3) =
      .ok [⟨newYearSeason 3, .closed, "Second Day",
        "rule:second-day;observed-from=2022-01-02"⟩] := by
    simp only [generate, finish_eq_insertionSort, observed, Observance.apply,
      Observance.targets.eq_def, Observance.nextAvailable, Observance.pending_eq_insertionSort]
    decide +kernel
  have expanded : longNewYear.expand .defaults (longNewYear.expansionRange
      ⟨newYearSeason 0, newYearSeason 4, by decide⟩) =
      .ok [⟨"new-year", newYearSeason 0, "New Year", "rule:new-year"⟩,
        ⟨"second-day", newYearSeason 1, "Second Day", "rule:second-day"⟩] := by decide +kernel
  have civil : ∀ source ∈ longNewYear.sources, source.IsCivilDay longNewYear.system := by
    intro source held
    rcases List.mem_pair.mp held with rfl | rfl
    · exact ⟨1, 1, none, rfl, rfl⟩
    · exact ⟨1, 2, none, rfl, rfl⟩
  have calm : Interrupted longNewYear
      [⟨"new-year", newYearSeason 0, "New Year", "rule:new-year"⟩,
        ⟨"second-day", newYearSeason 1, "Second Day", "rule:second-day"⟩]
      ⟨newYearSeason 3, newYearSeason 3, by decide⟩ := by
    refine .inl ⟨newYearSeason 0, by decide, by decide, ?_⟩
    rintro ⟨o, r⟩ listed before
    have held := (List.mem_filter.1 (Observance.mem_of_mem_observances listed)).1
    have notBefore : newYearSeason 0 ≤ o.date := by
      rcases List.mem_pair.mp held with rfl | rfl
      · decide
      · decide
    exact absurd (Int.lt_of_le_of_lt notBefore before) (Int.lt_irrefl _)
  obtain ⟨-, cut⟩ := generate_window_cascade .defaults (rfl : longNewYear.policy = .nextAvailable)
    civil rfl (by decide : newYearSeason 0 ≤ newYearSeason 3)
    (by decide : newYearSeason 3 ≤ newYearSeason 3) (by decide : newYearSeason 3 ≤ newYearSeason 4)
    (by decide) (by decide)
  exact ⟨wide, narrow.trans (congrArg Except.ok ((cut _ _ _ wide narrow expanded).1 calm))⟩

def busyWeek : Specification where
  id := "busy-week"
  metadata := .empty
  weekend := .satSun
  policy := .nextAvailable
  references := []
  sources :=
    [⟨"new-year", "New Year", .fixedMonthDay 1 1 none, none, none, none⟩,
      ⟨"fair-1", "Fair", .fixedMonthDay 1 3 none, none, none, none⟩,
      ⟨"fair-2", "Fair", .fixedMonthDay 1 4 none, none, none, none⟩,
      ⟨"fair-3", "Fair", .fixedMonthDay 1 5 none, none, none, none⟩,
      ⟨"fair-4", "Fair", .fixedMonthDay 1 6 none, none, none, none⟩,
      ⟨"fair-5", "Fair", .fixedMonthDay 1 7 none, none, none, none⟩]
  classifications := []
  deltas := []
  chain := []

/-- The padding does not show a holiday that is pushed nine days far: asked for that day alone, the
events have no holiday. -/
theorem generate_window_busyWeek :
    ¬ ∀ (s : Specification) (first a b last : Date), s.policy = .nextAvailable →
      (∀ source ∈ s.sources, source.IsCivilDay s.system) → s.deltas = [] →
      first ≤ a → a ≤ b → b ≤ last → 0 ≤ first.year → last.year ≤ 9999 →
      s.generate .defaults a b = (s.generate .defaults first last).map fun es =>
        es.filter fun e => a ≤ e.date ∧ e.date ≤ b := by
  intro independent
  have narrow : busyWeek.generate .defaults (newYearSeason 9) (newYearSeason 9) = .ok [] := by
    simp only [generate, finish_eq_insertionSort, observed, Observance.apply,
      Observance.targets.eq_def, Observance.nextAvailable, Observance.pending_eq_insertionSort]
    decide +kernel
  have wide : ((busyWeek.generate .defaults (newYearSeason 0) (newYearSeason 9)).map fun es =>
      es.filter fun e => newYearSeason 9 ≤ e.date ∧ e.date ≤ newYearSeason 9) =
      .ok [⟨newYearSeason 9, .closed, "New Year",
        "rule:new-year;observed-from=2022-01-01"⟩] := by
    simp only [generate, finish_eq_insertionSort, observed, Observance.apply,
      Observance.targets.eq_def, Observance.nextAvailable, Observance.pending_eq_insertionSort]
    decide +kernel
  have civil : ∀ source ∈ busyWeek.sources, source.IsCivilDay busyWeek.system := by
    intro source held
    simp only [busyWeek, List.mem_cons, List.not_mem_nil, or_false] at held
    rcases held with rfl | rfl | rfl | rfl | rfl | rfl <;> exact ⟨_, _, none, rfl, rfl⟩
  have same := independent busyWeek (newYearSeason 0) (newYearSeason 9) (newYearSeason 9)
    (newYearSeason 9) rfl civil rfl (by decide) (by decide) (by decide) (by decide) (by decide)
  rw [narrow, wide] at same
  cases same

end Specification

end Holidays
