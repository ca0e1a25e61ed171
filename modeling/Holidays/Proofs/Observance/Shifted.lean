import Holidays.Proofs.Observance.Allotment
import Holidays.Proofs.Sequence

namespace Holidays

theorem Weekend.isWhole_eq_false_iff {weekend : Weekend} :
    weekend.isWhole = false ↔ ∃ day, weekend.has day = false := by
  rw [← Bool.not_eq_true, isWhole_iff]
  simp

namespace Observance

def waiting (weekend : Weekend) (os : List Occurrence) : List Occurrence :=
  (os.filter fun o => weekend.covers o.date).mergeSort fun x y => decide (x.date ≤ y.date)

def staying (weekend : Weekend) (os : List Occurrence) : List Date :=
  (os.map Occurrence.date).filter fun d => !weekend.covers d

def observances (weekend : Weekend) (os : List Occurrence) : List (Occurrence × Option Date) :=
  os.zip (nextAvailable weekend (os.map Occurrence.date))

section

variable {weekend : Weekend}

theorem pending_eq_insertionSort (dates : List Date) : pending weekend dates =
    ((dates.zipIdx.filter fun x => weekend.covers x.1).map fun x => (x.2, x.1)).insertionSort
      fun x y => x.2 ≤ y.2 :=
  mergeSort_eq_insertionSort (byDate_trans Prod.snd) (byDate_total Prod.snd) _

theorem waiting_sorted (os : List Occurrence) :
    (waiting weekend os).Pairwise fun x y => x.date ≤ y.date := by
  have sorted := List.pairwise_mergeSort (byDate_trans Occurrence.date)
    (byDate_total Occurrence.date) (os.filter fun o => weekend.covers o.date)
  exact sorted.imp fun h => of_decide_eq_true h

theorem mem_waiting {os : List Occurrence} {o : Occurrence} :
    o ∈ waiting weekend os ↔ o ∈ os ∧ weekend.covers o.date = true := by
  simp [waiting]

theorem mem_staying {os : List Occurrence} {d : Date} :
    d ∈ staying weekend os ↔ (∃ o ∈ os, o.date = d) ∧ weekend.covers d = false := by
  simp [staying]

theorem filter_waiting (p : Occurrence → Bool) (os : List Occurrence) :
    (waiting weekend os).filter p = waiting weekend (os.filter p) := by
  rw [waiting, filter_mergeSort (byDate_trans Occurrence.date) (byDate_total Occurrence.date),
    List.filter_filter, waiting, List.filter_filter]
  congr 1
  exact List.filter_congr fun o _ => Bool.and_comm _ _

/-- Looking up the places afterwards finds what was allotted. -/
theorem lookup_assign {claimed : List Date} {xs : List (Occurrence × Nat)}
    (apart : (xs.map Prod.snd).Nodup) :
    (xs.map fun x => (x.1, ((assign weekend claimed (xs.map fun x => (x.2, x.1.date))).lookup
      x.2).getD none)) = allot weekend claimed (xs.map Prod.fst) := by
  induction xs generalizing claimed with
  | nil => rfl
  | cons x xs ih =>
    rw [List.map_cons, List.nodup_cons] at apart
    simp only [List.map_cons, assign, allot, List.lookup_cons_self, Option.getD_some]
    congr 1
    rw [← ih apart.2]
    apply List.map_congr_left
    intro y held
    have other : y.2 ≠ x.2 := fun same => apart.1 (same ▸ List.mem_map_of_mem held)
    have missed : (y.2 == x.2) = false := by simpa using other
    rw [List.lookup_cons, missed]

def queue (weekend : Weekend) (os : List Occurrence) : List (Occurrence × Nat) :=
  (os.zipIdx.filter fun x => weekend.covers x.1.date).mergeSort
    fun x y => decide (x.1.date ≤ y.1.date)

theorem mem_queue {os : List Occurrence} {x : Occurrence × Nat} :
    x ∈ queue weekend os ↔ x ∈ os.zipIdx ∧ weekend.covers x.1.date = true := by
  simp [queue]

theorem pending_eq (os : List Occurrence) :
    pending weekend (os.map Occurrence.date) =
      (queue weekend os).map fun x => (x.2, x.1.date) := by
  have sorted : (queue weekend os).map (fun x => (x.2, x.1.date)) =
      ((os.zipIdx.filter fun x => weekend.covers x.1.date).map fun x => (x.2, x.1.date)).mergeSort
        fun x y => decide (x.2 ≤ y.2) := List.map_mergeSort fun _ _ _ _ => rfl
  rw [sorted, pending, List.zipIdx_map, List.filter_map, List.map_map]
  rfl

theorem waiting_eq (os : List Occurrence) :
    waiting weekend os = (queue weekend os).map Prod.fst := by
  have plain : os.filter (fun o => weekend.covers o.date) =
      (os.zipIdx.filter fun x => weekend.covers x.1.date).map Prod.fst := by
    conv_lhs => rw [← List.zipIdx_map_fst 0 os, List.filter_map]
    rfl
  have sorted : (queue weekend os).map Prod.fst =
      ((os.zipIdx.filter fun x => weekend.covers x.1.date).map Prod.fst).mergeSort
        fun x y => decide (x.date ≤ y.date) := List.map_mergeSort fun _ _ _ _ => rfl
  rw [sorted, waiting, plain]

theorem queue_places (os : List Occurrence) : ((queue weekend os).map Prod.snd).Nodup := by
  have all : (os.zipIdx.map Prod.snd).Nodup := by
    rw [List.zipIdx_map_snd]
    exact List.nodup_range'
  have part : (os.zipIdx.filter fun x => weekend.covers x.1.date).map Prod.snd |>.Nodup :=
    all.sublist (List.filter_sublist.map Prod.snd)
  exact ((List.mergeSort_perm _ _).map Prod.snd).nodup_iff.2 part

def observedAt (weekend : Weekend) (os : List Occurrence) (x : Occurrence × Nat) :
    Occurrence × Option Date :=
  (x.1, if weekend.covers x.1.date then
      ((assign weekend (staying weekend os) (pending weekend (os.map Occurrence.date))).lookup
        x.2).getD none
    else some x.1.date)

theorem observances_eq (business : weekend.isWhole = false) (os : List Occurrence) :
    observances weekend os = os.zipIdx.map (observedAt weekend os) := by
  have claimed : (os.map Occurrence.date).filter (fun d => !weekend.covers d) =
      staying weekend os := rfl
  have places : os = os.zipIdx.map Prod.fst := (List.zipIdx_map_fst 0 os).symm
  rw [observances, nextAvailable, if_neg (by simp [business]), claimed, List.zipIdx_map,
    List.map_map]
  conv_lhs => arg 1; rw [places]
  rw [List.zip_map']
  rfl

/-- In order, the holidays that wait are observed on the days allotted to them. -/
theorem queue_observedAt (weekend : Weekend) (os : List Occurrence) :
    (queue weekend os).map (observedAt weekend os) =
      allot weekend (staying weekend os) ((queue weekend os).map Prod.fst) := by
  rw [← lookup_assign (queue_places os), ← pending_eq]
  apply List.map_congr_left
  intro x held
  rw [observedAt, if_pos (mem_queue.mp held).2]

theorem observances_waiting (business : weekend.isWhole = false) (os : List Occurrence) :
    ((observances weekend os).filter fun x => weekend.covers x.1.date).Perm
      (allot weekend (staying weekend os) (waiting weekend os)) := by
  have plain : (fun x : Occurrence × Option Date => weekend.covers x.1.date) ∘
      observedAt weekend os = fun x => weekend.covers x.1.date := rfl
  rw [waiting_eq, ← queue_observedAt, observances_eq business, List.filter_map, plain]
  exact (List.mergeSort_perm _ _).symm.map _

theorem observances_of_whole (whole : weekend.isWhole = true) (os : List Occurrence) :
    observances weekend os =
      os.map fun o => (o, if weekend.covers o.date then none else some o.date) := by
  rw [observances, nextAvailable, if_pos whole, List.map_map, List.map_prod_left_eq_zip]
  rfl

theorem observances_fst (os : List Occurrence) : (observances weekend os).map Prod.fst = os := by
  cases whole : weekend.isWhole with
  | true => simp [observances_of_whole whole, Function.comp_def]
  | false =>
    rw [observances_eq whole, List.map_map]
    exact List.zipIdx_map_fst 0 os

theorem target_of_staying {os : List Occurrence} {o : Occurrence} {r : Option Date}
    (h : (o, r) ∈ observances weekend os) (business : weekend.covers o.date = false) :
    r = some o.date := by
  cases whole : weekend.isWhole with
  | true =>
    rw [observances_of_whole whole] at h
    obtain ⟨p, -, same⟩ := List.mem_map.1 h
    cases same
    simp [business]
  | false =>
    rw [observances_eq whole] at h
    obtain ⟨x, -, same⟩ := List.mem_map.1 h
    cases same
    simp [business]

theorem target_of_waiting {os : List Occurrence} {o : Occurrence} {t : Date}
    (h : (o, some t) ∈ observances weekend os) (waits : weekend.covers o.date = true) :
    Free weekend (staying weekend os) t := by
  cases whole : weekend.isWhole with
  | true =>
    rw [observances_of_whole whole] at h
    obtain ⟨p, -, same⟩ := List.mem_map.1 h
    obtain ⟨rfl, target⟩ := Prod.mk.inj same
    rw [if_pos waits] at target
    cases target
  | false =>
    have allotted := (observances_waiting whole os).mem_iff.1 (List.mem_filter.2 ⟨h, waits⟩)
    exact (free_of_mem_allot allotted).2

theorem mem_of_mem_observances {os : List Occurrence} {o : Occurrence} {r : Option Date}
    (h : (o, r) ∈ observances weekend os) : o ∈ os := by
  have held := List.mem_map_of_mem (f := Prod.fst) h
  rwa [observances_fst] at held

theorem observed_on_weekend {os : List Occurrence} {d : Date}
    (onWeekend : weekend.covers d = true) :
    (observances weekend os).filter (fun x => x.2 = some d) = [] := by
  rw [List.filter_eq_nil_iff]
  rintro ⟨o, r⟩ listed here
  obtain rfl : r = some d := by simpa using here
  cases covered : weekend.covers o.date with
  | true =>
    have business := (target_of_waiting listed covered).1
    rw [onWeekend] at business
    cases business
  | false =>
    cases target_of_staying listed covered
    rw [onWeekend] at covered
    cases covered

theorem observed_on_staying {os : List Occurrence} {d : Date} (stays : d ∈ staying weekend os) :
    ((observances weekend os).filter fun x => x.2 = some d).map Prod.fst =
      os.filter fun o => o.date = d := by
  have own : (observances weekend os).filter (fun x => x.2 = some d) =
      (observances weekend os).filter fun x => x.1.date = d := by
    apply List.filter_congr
    rintro ⟨o, r⟩ listed
    rw [decide_eq_decide]
    constructor
    · rintro rfl
      cases covered : weekend.covers o.date with
      | true => exact absurd stays (target_of_waiting listed covered).2
      | false => exact (Option.some.inj (target_of_staying listed covered)).symm
    · rintro rfl
      exact target_of_staying listed (mem_staying.1 stays).2
  have plain : (fun o : Occurrence => decide (o.date = d)) ∘ Prod.fst =
      fun x : Occurrence × Option Date => decide (x.1.date = d) := rfl
  rw [own, ← plain, ← List.filter_map, observances_fst]

theorem isWhole_eq_false {d : Date} (business : weekend.covers d = false) :
    weekend.isWhole = false :=
  Weekend.isWhole_eq_false_iff.2 ⟨d.weekday, business⟩

theorem observed_on_free {os : List Occurrence} {d : Date}
    (free : Free weekend (staying weekend os) d) :
    (observances weekend os).filter (fun x => x.2 = some d) =
      (allot weekend (staying weekend os) (waiting weekend os)).filter fun x => x.2 = some d := by
  have business := isWhole_eq_false free.1
  have own : (observances weekend os).filter (fun x => x.2 = some d) =
      ((observances weekend os).filter fun x => weekend.covers x.1.date).filter
        fun x => x.2 = some d := by
    rw [List.filter_filter]
    apply List.filter_congr
    rintro ⟨o, r⟩ listed
    cases covered : weekend.covers o.date with
    | true => simp
    | false =>
      have apart : ¬ o.date = d := by
        rintro rfl
        exact free.2 (mem_staying.2 ⟨⟨o, mem_of_mem_observances listed, rfl⟩, covered⟩)
      simp [target_of_staying listed covered, apart]
  have same := (observances_waiting business os).filter fun x => x.2 = some d
  rw [own]
  have short : ((allot weekend (staying weekend os) (waiting weekend os)).filter
      fun x => x.2 = some d).length ≤ 1 := length_filter_target _ _ d
  -- Lists of one element are equal where they are permutations.
  cases found : (allot weekend (staying weekend os) (waiting weekend os)).filter
      (fun x => x.2 = some d) with
  | nil => exact List.perm_nil.1 (found ▸ same)
  | cons x xs =>
    cases xs with
    | nil => exact List.perm_singleton.1 (found ▸ same)
    | cons y ys => simp [found] at short

theorem clear_observances_iff {os : List Occurrence} {c : Date}
    (business : weekend.isWhole = false) :
    Clear (observances weekend os) c ↔
      Clear (allot weekend (staying weekend os) (waiting weekend os)) c := by
  have same := observances_waiting business os
  constructor
  · intro clear x listed
    exact clear x (List.mem_filter.1 (same.mem_iff.2 listed)).1
  · rintro clear ⟨o, r⟩ listed before
    cases covered : weekend.covers o.date with
    | true => exact clear _ (same.mem_iff.1 (List.mem_filter.2 ⟨listed, covered⟩)) before
    | false => exact ⟨o.date, target_of_staying listed covered, before⟩

theorem staying_filter (p : Date → Bool) (os : List Occurrence) :
    staying weekend (os.filter fun o => p o.date) = (staying weekend os).filter p := by
  have plain : (fun o : Occurrence => p o.date) = p ∘ Occurrence.date := rfl
  rw [staying, plain, ← List.filter_map, List.filter_filter, staying, List.filter_filter]
  exact List.filter_congr fun d _ => Bool.and_comm _ _

end

end Observance

end Holidays
