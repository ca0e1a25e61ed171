import Holidays.Generation.Generate
import Holidays.Proofs.Civil.Order
import Holidays.Proofs.Sequence

namespace Holidays

namespace Specification

def observed (s : Specification) (range : DateRange) (os : List Occurrence) : List Occurrence :=
  (Observance.apply s.policy s.weekend s.shiftableKeys range os).filter
    fun o => range.Contains o.date

def complete (s : Specification) (range : DateRange) (os : List Occurrence) : List Event :=
  (Event.fillWeekends s.weekend range (s.classify (Delta.applyAll s.sources range os s.deltas)))
    |>.mergeSort fun a b => decide (a.date ≤ b.date)

theorem finish_eq (s : Specification) (range : DateRange) (os : List Occurrence) :
    s.finish range os = s.complete range (s.observed range os) := rfl

theorem finish_eq_insertionSort (s : Specification) (range : DateRange) (os : List Occurrence) :
    s.finish range os = (Event.fillWeekends s.weekend range (s.classify
      (Delta.applyAll s.sources range (s.observed range os) s.deltas))).insertionSort
        fun a b => a.date ≤ b.date :=
  mergeSort_eq_insertionSort (byDate_trans Event.date) (byDate_total Event.date) _

theorem filter_classify {inner : DateRange} (s : Specification) (os : List Occurrence) :
    (s.classify os).filter (fun e => inner.Contains e.date) =
      s.classify (os.filter fun o => inner.Contains o.date) := by
  rw [classify, List.filter_map]
  rfl

end Specification

section

variable {inner outer : DateRange} (within : inner.Within outer)

namespace Occurrence

theorem filter_addNew (os : List Occurrence) (o : Occurrence) :
    (addNew os o).filter (fun o => inner.Contains o.date) =
      if inner.Contains o.date then addNew (os.filter fun o => inner.Contains o.date) o
      else os.filter fun o => inner.Contains o.date := by
  have known (inside : inner.Contains o.date) :
      o.pair ∈ (os.filter fun o => inner.Contains o.date).map pair ↔ o.pair ∈ os.map pair := by
    simp only [List.mem_map, List.mem_filter, decide_eq_true_eq]
    constructor
    · rintro ⟨p, ⟨held, -⟩, same⟩
      exact ⟨p, held, same⟩
    · rintro ⟨p, held, same⟩
      have dates : p.date = o.date := congrArg Prod.snd same
      exact ⟨p, ⟨held, dates ▸ inside⟩, same⟩
  unfold addNew
  by_cases inside : inner.Contains o.date
  · simp only [if_pos inside, List.contains_iff_mem, known inside]
    split
    · rfl
    · simp [List.filter_append, inside]
  · rw [if_neg inside]
    split
    · rfl
    · simp [List.filter_append, inside]

theorem filter_foldl_addNew (os acc : List Occurrence) :
    (os.foldl addNew acc).filter (fun o => inner.Contains o.date) =
      (os.filter fun o => inner.Contains o.date).foldl addNew
        (acc.filter fun o => inner.Contains o.date) := by
  induction os generalizing acc with
  | nil => rfl
  | cons o os ih =>
    rw [List.foldl_cons, ih, filter_addNew]
    by_cases inside : inner.Contains o.date
    · rw [if_pos inside, List.filter_cons_of_pos (by simpa using inside), List.foldl_cons]
    · rw [if_neg inside, List.filter_cons_of_neg (by simpa using inside)]

end Occurrence

namespace Delta

include within

theorem filter_applyOne (sources : List EventSource) (os : List Occurrence) (delta : Delta) :
    (applyOne sources outer os delta).filter (fun o => inner.Contains o.date) =
      applyOne sources inner (os.filter fun o => inner.Contains o.date) delta := by
  cases delta with
  | add key date name classification =>
    simp only [applyOne]
    by_cases inside : inner.Contains date
    · rw [if_pos (within.contains inside), if_pos inside, Occurrence.filter_addNew,
        if_pos inside]
    · rw [if_neg inside]
      split
      · rw [Occurrence.filter_addNew, if_neg inside]
      · rfl
  | remove key date =>
    simp only [applyOne, Keyed.erase, List.filter_filter]
    exact List.filter_congr fun o _ => Bool.and_comm _ _
  | reclassify key date classification => rfl

theorem filter_applyAll (sources : List EventSource) (os : List Occurrence) (deltas : List Delta) :
    (applyAll sources outer os deltas).filter (fun o => inner.Contains o.date) =
      applyAll sources inner (os.filter fun o => inner.Contains o.date) deltas := by
  have fold (acc : List Occurrence) :
      (deltas.foldl (applyOne sources outer) acc).filter (fun o => inner.Contains o.date) =
        deltas.foldl (applyOne sources inner) (acc.filter fun o => inner.Contains o.date) := by
    induction deltas generalizing acc with
    | nil => rfl
    | cons delta deltas ih => rw [List.foldl_cons, ih, filter_applyOne within, List.foldl_cons]
  rw [applyAll, fold, Occurrence.filter_foldl_addNew]
  rfl

end Delta

include within

theorem filter_days : outer.days.filter (fun d => inner.Contains d) = inner.days := by
  have low : outer.first.number ≤ inner.first.number := within.1
  have high : inner.last.number ≤ outer.last.number := within.2
  have number {n : Int} {d : Date}
      (found : (if n = Date.last.number then none else Date.ofNumber? n) = some d) :
      d.number = n := by
    split at found
    · cases found
    · exact Date.ofNumber?_eq_some_iff.mp found
  rw [DateRange.days, filter_filterMap_span low high]
  · apply List.filter_eq_self.mpr
    intro d listed
    exact decide_eq_true (DateRange.mem_days.mp listed).1
  · intro n _ _ d found inside
    exact number found ▸ of_decide_eq_true inside

theorem filter_fillWeekends (weekend : Weekend) (events : List Event) :
    (Event.fillWeekends weekend outer events).filter (fun e => inner.Contains e.date) =
      Event.fillWeekends weekend inner (events.filter fun e => inner.Contains e.date) := by
  simp only [Event.fillWeekends, List.filter_append]
  congr 1
  rw [List.filter_map, ← filter_days within, List.filter_filter, List.filter_filter]
  congr 1
  apply List.filter_congr
  intro d _
  by_cases inside : inner.Contains d
  · have same : d ∈ (events.filter fun e => inner.Contains e.date).map Event.date ↔
        d ∈ events.map Event.date := by
      simp only [List.mem_map, List.mem_filter, decide_eq_true_eq]
      constructor
      · rintro ⟨e, ⟨held, -⟩, rfl⟩
        exact ⟨e, held, rfl⟩
      · rintro ⟨e, held, rfl⟩
        exact ⟨e, ⟨held, inside⟩, rfl⟩
    have taken : ((events.filter fun e => inner.Contains e.date).map Event.date).contains d =
        (events.map Event.date).contains d := by
      rw [Bool.eq_iff_iff, List.contains_iff_mem, List.contains_iff_mem]
      exact same
    rw [taken]
    simp [inside, Event.ofWeekendDay]
  · simp [inside, Event.ofWeekendDay]

namespace Specification

theorem filter_complete (s : Specification) (os : List Occurrence) :
    (s.complete outer os).filter (fun e => inner.Contains e.date) =
      s.complete inner (os.filter fun o => inner.Contains o.date) := by
  rw [complete, filter_mergeSort (byDate_trans Event.date) (byDate_total Event.date),
    filter_fillWeekends within, filter_classify, Delta.filter_applyAll within]
  rfl

end Specification

end

end Holidays
