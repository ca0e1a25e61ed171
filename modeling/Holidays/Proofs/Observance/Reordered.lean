import Holidays.Proofs.Observance.Exchange
import Holidays.Proofs.Observance.Greedy

/-!
Holidays listed in another order. The days handed out depend on the dates that wait, which are put
in order first, and on the days that are taken at the start, so the same days are observed. All that
the list decides is which of several holidays on one weekend day gets the earlier business day.
-/
namespace Holidays.Observance

section

variable {weekend : Weekend} {os ps : List Occurrence}

theorem waiting_perm (os : List Occurrence) :
    (waiting weekend os).Perm (os.filter fun o => weekend.covers o.date) :=
  List.mergeSort_perm _ _

theorem waiting_reordered (reordered : os.Perm ps) :
    (waiting weekend os).Perm (waiting weekend ps) :=
  (waiting_perm os).trans ((reordered.filter _).trans (waiting_perm ps).symm)

theorem waiting_dates_reordered (reordered : os.Perm ps) :
    (waiting weekend os).map Occurrence.date = (waiting weekend ps).map Occurrence.date := by
  have sorted (os : List Occurrence) :
      ((waiting weekend os).map Occurrence.date).Pairwise (· ≤ ·) :=
    List.pairwise_map.mpr (waiting_sorted os)
  refine List.Perm.eq_of_pairwise ?_ (sorted os) (sorted ps)
    ((waiting_reordered reordered).map Occurrence.date)
  intro a b _ _ low high
  exact Date.ext_number (Int.le_antisymm low high)

theorem waiting_eq_of_nodup (reordered : os.Perm ps)
    (apart : ((waiting weekend os).map Occurrence.date).Nodup) :
    waiting weekend os = waiting weekend ps := by
  refine List.Perm.eq_of_pairwise ?_ (waiting_sorted os) (waiting_sorted ps)
    (waiting_reordered reordered)
  intro a b ha hb low high
  have hb := (waiting_reordered reordered).mem_iff.mpr hb
  exact List.inj_on_of_nodup_map apart ha hb (Date.ext_number (Int.le_antisymm low high))

theorem mem_staying_reordered (reordered : os.Perm ps) (d : Date) :
    d ∈ staying weekend os ↔ d ∈ staying weekend ps :=
  ((reordered.map Occurrence.date).filter _).mem_iff

theorem allot_targets_congr (same : os.map Occurrence.date = ps.map Occurrence.date)
    (claimed : List Date) :
    (allot weekend claimed os).map Prod.snd = (allot weekend claimed ps).map Prod.snd := by
  induction os generalizing ps claimed with
  | nil =>
    cases ps with
    | nil => rfl
    | cons p ps => cases same
  | cons o os ih =>
    cases ps with
    | nil => cases same
    | cons p ps =>
      obtain ⟨head, tail⟩ := List.cons.inj same
      simp only [allot, List.map_cons, head]
      rw [ih tail]

theorem observances_staying (os : List Occurrence) :
    (observances weekend os).filter (fun x => !weekend.covers x.1.date) =
      (os.filter fun o => !weekend.covers o.date).map fun o => (o, some o.date) := by
  conv_rhs => rw [← @observances_fst weekend os, List.filter_map, List.map_map]
  refine (List.map_id _).symm.trans (List.map_congr_left ?_)
  rintro ⟨o, r⟩ held
  obtain ⟨listed, business⟩ := List.mem_filter.mp held
  have own := target_of_staying listed (by simpa using business)
  simp [own]

theorem observances_perm (business : weekend.isWhole = false) (os : List Occurrence) :
    (observances weekend os).Perm (allot weekend (staying weekend os) (waiting weekend os) ++
      (os.filter fun o => !weekend.covers o.date).map fun o => (o, some o.date)) := by
  rw [← observances_staying]
  exact (List.filter_append_perm _ _).symm.trans
    ((observances_waiting business os).append_right _)

theorem apply_nextAvailable_eq (shiftable : List String) (range : DateRange)
    (os : List Occurrence) :
    apply .nextAvailable weekend shiftable range os =
      (observances weekend (remaining weekend shiftable os)).filterMap
        fun x => move? range x.1 x.2 := rfl

theorem apply_nextAvailable_of_whole (whole : weekend.isWhole = true) (shiftable : List String)
    (range : DateRange) (os : List Occurrence) :
    apply .nextAvailable weekend shiftable range os = [] := by
  have covered (o : Occurrence) : weekend.covers o.date = true :=
    Weekend.isWhole_iff.mp whole o.date.weekday
  simp [apply_nextAvailable_eq, observances_of_whole whole, covered, move?]

/-- What is observed comes from the holidays that wait, in turn, and from those that stay. -/
theorem apply_nextAvailable_perm (business : weekend.isWhole = false) (shiftable : List String)
    (range : DateRange) (os : List Occurrence) :
    (apply .nextAvailable weekend shiftable range os).Perm
      ((allot weekend (staying weekend (remaining weekend shiftable os))
          (waiting weekend (remaining weekend shiftable os))).filterMap
            (fun x => move? range x.1 x.2) ++
        (remaining weekend shiftable os).filter fun o => !weekend.covers o.date) := by
  have stays (o : Occurrence) : move? range o (some o.date) = some o := if_pos rfl
  rw [apply_nextAvailable_eq]
  have split := (observances_perm business (remaining weekend shiftable os)).filterMap
    fun x => move? range x.1 x.2
  rw [List.filterMap_append, List.filterMap_map] at split
  simpa only [Function.comp_def, stays, List.filterMap_some] using split

theorem moved_dates (claimed : List Date) (range : DateRange) (os : List Occurrence) :
    ((allot weekend claimed os).filterMap fun x => move? range x.1 x.2).map Occurrence.date =
      ((allot weekend claimed os).map Prod.snd).filterMap
        fun r => r.filter fun d => range.Contains d := by
  rw [List.map_filterMap, List.filterMap_map]
  apply List.filterMap_congr
  rintro ⟨o, r⟩ listed
  cases r with
  | none => rfl
  | some t =>
    have other : t ≠ o.date := by
      rintro rfl
      exact Int.lt_irrefl _ (free_of_mem_allot listed).1
    by_cases inside : range.Contains t <;> simp [move?, other, inside, Option.filter_some]

end

def putOff (weekend : Weekend) (shiftable : List String) (os : List Occurrence) :
    List Occurrence :=
  os.filter fun o => shiftable.contains o.key && weekend.covers o.date

theorem waiting_remaining_perm (weekend : Weekend) (shiftable : List String)
    (os : List Occurrence) :
    (waiting weekend (remaining weekend shiftable os)).Perm (putOff weekend shiftable os) := by
  have same : (remaining weekend shiftable os).filter (fun o => weekend.covers o.date) =
      putOff weekend shiftable os := by
    rw [remaining, List.filter_filter, putOff]
    apply List.filter_congr
    intro o _
    cases weekend.covers o.date <;> simp
  exact same ▸ waiting_perm _

/-- In whatever order the holidays are listed, the same days are observed, each as many times. Where
no two of those put off share a date, each of them is observed on the same day too. -/
theorem apply_nextAvailable_reordered (weekend : Weekend) (shiftable : List String)
    (range : DateRange) {os ps : List Occurrence} (reordered : os.Perm ps) :
    ((apply .nextAvailable weekend shiftable range os).map Occurrence.date).Perm
      ((apply .nextAvailable weekend shiftable range ps).map Occurrence.date) ∧
    (((putOff weekend shiftable os).map Occurrence.date).Nodup →
      (apply .nextAvailable weekend shiftable range os).Perm
        (apply .nextAvailable weekend shiftable range ps)) := by
  cases whole : weekend.isWhole with
  | true => simp [apply_nextAvailable_of_whole whole]
  | false =>
    have kept : (remaining weekend shiftable os).Perm (remaining weekend shiftable ps) :=
      reordered.filter _
    have here := apply_nextAvailable_perm whole shiftable range os
    have there := apply_nextAvailable_perm whole shiftable range ps
    have stays := kept.filter fun o => !weekend.covers o.date
    rw [allot_congr (mem_staying_reordered kept)] at here
    constructor
    · have sameDates : (waiting weekend (remaining weekend shiftable os)).map Occurrence.date =
          (waiting weekend (remaining weekend shiftable ps)).map Occurrence.date :=
        waiting_dates_reordered kept
      have days (claimed : List Date) :
          (allot weekend claimed (waiting weekend (remaining weekend shiftable os))).map Prod.snd =
            (allot weekend claimed (waiting weekend (remaining weekend shiftable ps))).map
              Prod.snd := allot_targets_congr sameDates claimed
      refine (here.map Occurrence.date).trans (.trans ?_ (there.map Occurrence.date).symm)
      rw [List.map_append, List.map_append, moved_dates, moved_dates, days]
      exact (stays.map Occurrence.date).append_left _
    · intro apart
      have queue := waiting_eq_of_nodup kept
        (((waiting_remaining_perm weekend shiftable os).map Occurrence.date).nodup_iff.mpr apart)
      rw [queue] at here
      exact here.trans ((stays.append_left _).trans there.symm)

/-- The New Year goes to the Tuesday, and the second day, after it, leaves the range. -/
theorem apply_nextAvailable_reversed :
    let keys := ["new-year", "second-day"]
    let range : DateRange := ⟨january 1, january 4, by decide⟩
    (apply .nextAvailable .satSun keys range turnOfYearHolidays).map Occurrence.date =
      [january 4, january 3] ∧
    (apply .nextAvailable .satSun keys range turnOfYearHolidays).Perm
      (apply .nextAvailable .satSun keys range turnOfYearHolidays.reverse) := by
  intro keys range
  have reordered : turnOfYearHolidays.Perm turnOfYearHolidays.reverse :=
    (List.reverse_perm _).symm
  have apart : ((putOff .satSun keys turnOfYearHolidays).map Occurrence.date).Nodup := by
    decide +kernel
  have observed : (apply .nextAvailable .satSun keys range turnOfYearHolidays).map
      Occurrence.date = [january 4, january 3] := by
    simp only [apply, targets, nextAvailable, pending_eq_insertionSort]
    decide +kernel
  exact ⟨observed, (apply_nextAvailable_reordered .satSun keys range reordered).2 apart⟩

end Holidays.Observance
