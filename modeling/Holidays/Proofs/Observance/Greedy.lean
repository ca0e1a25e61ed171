import Holidays.Proofs.Observance.Shifted
import Mathlib.Order.Bounds.Defs

namespace Holidays.Observance

/-- An earlier date comes first, and within a date an earlier place in the list. -/
def Before (x y : Occurrence × Nat) : Prop :=
  x.1.date < y.1.date ∨ x.1.date = y.1.date ∧ x.2 < y.2

theorem Before.date_le {x y : Occurrence × Nat} (h : Before x y) : x.1.date ≤ y.1.date := by
  rcases h with earlier | ⟨same, -⟩
  · exact Int.le_of_lt earlier
  · exact Int.le_of_eq (congrArg Date.number same)

theorem Before.trans {x y z : Occurrence × Nat} (h : Before x y) (h' : Before y z) :
    Before x z := by
  rcases h with earlier | ⟨same, left⟩
  · exact .inl (Int.lt_of_lt_of_le earlier h'.date_le)
  · rcases h' with earlier | ⟨same', left'⟩
    · exact .inl (same ▸ earlier)
    · exact .inr ⟨same.trans same', Nat.lt_trans left left'⟩

theorem Before.irrefl (x : Occurrence × Nat) : ¬ Before x x := by
  rintro (earlier | ⟨-, left⟩)
  · exact absurd earlier (Int.lt_irrefl _)
  · exact absurd left (Nat.lt_irrefl _)

theorem before_or_before {os : List Occurrence} {x y : Occurrence × Nat} (hx : x ∈ os.zipIdx)
    (hy : y ∈ os.zipIdx) (apart : x ≠ y) : Before x y ∨ Before y x := by
  rcases Int.lt_trichotomy x.1.date.number y.1.date.number with earlier | same | later
  · exact .inl (.inl earlier)
  · have same := Date.ext_number same
    rcases Nat.lt_trichotomy x.2 y.2 with left | here | right
    · exact .inl (.inr ⟨same, left⟩)
    · rw [List.mem_zipIdx_iff_getElem?] at hx hy
      rw [here, hy] at hx
      exact absurd (Prod.ext (Option.some.inj hx.symm) here) apart
    · exact .inr (.inr ⟨same.symm, right⟩)
  · exact .inr (.inl later)

/-- The rule: business days are kept, and each holiday on a weekend day gets the least date later
than its own that is a business day, is not kept by a holiday and was not given to one before. -/
structure Greedy (weekend : Weekend) (os : List Occurrence)
    (target : Occurrence × Nat → Option Date) : Prop where
  stays : ∀ x ∈ os.zipIdx, weekend.covers x.1.date = false → target x = some x.1.date
  moves : ∀ x ∈ os.zipIdx, weekend.covers x.1.date = true → ∀ t, target x = some t ↔
    IsLeast {d | x.1.date < d ∧ weekend.covers d = false ∧
      (∀ y ∈ os.zipIdx, weekend.covers y.1.date = false → y.1.date ≠ d) ∧
      ∀ y ∈ os.zipIdx, weekend.covers y.1.date = true → Before y x → target y ≠ some d} t

section

variable {weekend : Weekend} {os : List Occurrence} {target : Occurrence × Nat → Option Date}

theorem Greedy.lt_of_before (greedy : Greedy weekend os target) {x y : Occurrence × Nat}
    (hx : x ∈ os.zipIdx) (hy : y ∈ os.zipIdx) (waits : weekend.covers x.1.date = true)
    (waits' : weekend.covers y.1.date = true) (before : Before x y) {s t : Date}
    (given : target x = some s) (given' : target y = some t) : s < t := by
  obtain ⟨-, least⟩ := (greedy.moves x hx waits s).mp given
  obtain ⟨⟨later, business, unkept, left⟩, -⟩ := (greedy.moves y hy waits' t).mp given'
  have notAfter : s.number ≤ t.number := by
    apply least
    refine ⟨Int.lt_of_le_of_lt before.date_le later, business, unkept, ?_⟩
    intro z hz waits earlier
    exact left z hz waits (earlier.trans before)
  have apart : s.number ≠ t.number := by
    intro same
    exact left x hx waits before (Date.ext_number same ▸ given)
  exact show s.number < t.number by omega

theorem Greedy.ne_of_stays (greedy : Greedy weekend os target) {x y : Occurrence × Nat}
    (hx : x ∈ os.zipIdx) (hy : y ∈ os.zipIdx) (waits : weekend.covers x.1.date = true)
    (stays : weekend.covers y.1.date = false) : target x ≠ some y.1.date := by
  intro given
  obtain ⟨⟨-, -, unkept, -⟩, -⟩ := (greedy.moves x hx waits _).mp given
  exact unkept y hy stays rfl

theorem Greedy.stays_of_shared (greedy : Greedy weekend os target) {x y : Occurrence × Nat}
    (hx : x ∈ os.zipIdx) (hy : y ∈ os.zipIdx) (apart : x ≠ y) {d : Date}
    (given : target x = some d) (given' : target y = some d) : x.1.date = d ∧ y.1.date = d := by
  cases waits : weekend.covers x.1.date with
  | true =>
    exfalso
    cases waits' : weekend.covers y.1.date with
    | true =>
      rcases before_or_before hx hy apart with before | before
      · exact absurd (greedy.lt_of_before hx hy waits waits' before given given')
          (Int.lt_irrefl _)
      · exact absurd (greedy.lt_of_before hy hx waits' waits before given' given)
          (Int.lt_irrefl _)
    | false =>
      have own := greedy.stays y hy waits'
      rw [given'] at own
      exact greedy.ne_of_stays hx hy waits waits' (given.trans own)
  | false =>
    have own := greedy.stays x hx waits
    rw [given] at own
    cases waits' : weekend.covers y.1.date with
    | true => exact absurd (given'.trans own) (greedy.ne_of_stays hy hx waits' waits)
    | false =>
      have own' := greedy.stays y hy waits'
      rw [given'] at own'
      exact ⟨(Option.some.inj own).symm, (Option.some.inj own').symm⟩

theorem nextFree?_eq_some_iff_isLeast {claimed : List Date} {d t : Date} :
    nextFree? weekend claimed d = some t ↔ IsLeast {x | d < x ∧ Free weekend claimed x} t := by
  rw [nextFree?_eq_some_iff]
  constructor
  · rintro ⟨later, free, least⟩
    refine ⟨⟨later, free⟩, ?_⟩
    rintro x ⟨after, open'⟩
    exact Int.not_lt.mp fun earlier => least x after earlier open'
  · rintro ⟨⟨later, free⟩, least⟩
    refine ⟨later, free, ?_⟩
    intro x after earlier open'
    exact absurd (least ⟨after, open'⟩) (Int.not_le.mpr earlier)

theorem queue_pairwise (weekend : Weekend) (os : List Occurrence) :
    (queue weekend os).Pairwise Before := by
  have places : os.zipIdx.Pairwise fun x y => x.2 < y.2 := by
    rw [← List.pairwise_map, List.zipIdx_map_snd]
    exact List.pairwise_lt_range'
  have sorted := pairwise_mergeSort_stable
    (byDate_trans fun x : Occurrence × Nat => x.1.date)
    (byDate_total fun x : Occurrence × Nat => x.1.date)
    (places.filter fun x => weekend.covers x.1.date)
  apply sorted.imp
  rintro x y ⟨notAfter, left⟩
  simp only [decide_eq_true_eq] at notAfter left
  by_cases same : y.1.date ≤ x.1.date
  · exact .inr ⟨Date.ext_number (Int.le_antisymm notAfter same), left same⟩
  · exact .inl (Int.not_le.mp same)

theorem length_allot (claimed : List Date) (os : List Occurrence) :
    (allot weekend claimed os).length = os.length := by
  induction os generalizing claimed with
  | nil => rfl
  | cons o os ih => simp [allot, ih]

theorem observedAt_of_split {pre post : List (Occurrence × Nat)} {x : Occurrence × Nat}
    (split : queue weekend os = pre ++ x :: post) :
    pre.map (observedAt weekend os) = allot weekend (staying weekend os) (pre.map Prod.fst) ∧
    (observedAt weekend os x).2 =
      nextFree? weekend (claims weekend (staying weekend os) (pre.map Prod.fst)) x.1.date := by
  have given := queue_observedAt weekend os
  rw [split, List.map_append, List.map_append, allot_append] at given
  obtain ⟨front, back⟩ := List.append_inj given (by simp [length_allot])
  exact ⟨front, congrArg Prod.snd (List.cons.inj back).1⟩

theorem mem_front_iff {pre post : List (Occurrence × Nat)} {x y : Occurrence × Nat}
    (split : queue weekend os = pre ++ x :: post) :
    y ∈ pre ↔ (y ∈ os.zipIdx ∧ weekend.covers y.1.date = true) ∧ Before y x := by
  have sorted := queue_pairwise weekend os
  rw [split, List.pairwise_append, List.pairwise_cons] at sorted
  rw [← mem_queue, split]
  constructor
  · intro early
    exact ⟨List.mem_append_left _ early, sorted.2.2 y early x List.mem_cons_self⟩
  · rintro ⟨held, before⟩
    rcases List.mem_append.mp held with early | late
    · exact early
    · rcases List.mem_cons.mp late with rfl | late
      · exact absurd before (Before.irrefl y)
      · exact absurd (before.trans (sorted.2.1.1 y late)) (Before.irrefl y)

/-- What is claimed by the turn of a holiday, in terms of the places in the list. -/
theorem not_mem_claims_iff {pre post : List (Occurrence × Nat)} {x : Occurrence × Nat}
    (split : queue weekend os = pre ++ x :: post) {d : Date} :
    d ∉ claims weekend (staying weekend os) (pre.map Prod.fst) ↔
      (∀ y ∈ os.zipIdx, weekend.covers y.1.date = false → y.1.date ≠ d) ∧
      ∀ y ∈ os.zipIdx, weekend.covers y.1.date = true → Before y x →
        (observedAt weekend os y).2 ≠ some d := by
  rw [mem_claims, ← (observedAt_of_split split).1, not_or]
  apply and_congr
  · constructor
    · rintro unkept y held business rfl
      exact unkept (mem_staying.mpr ⟨⟨y.1, List.fst_mem_of_mem_zipIdx held, rfl⟩, business⟩)
    · rintro unkept stays
      obtain ⟨⟨o, held, rfl⟩, business⟩ := mem_staying.mp stays
      obtain ⟨place, there⟩ := List.mem_iff_getElem?.mp held
      exact unkept (o, place) (List.mem_zipIdx_iff_getElem?.mpr there) business rfl
  · constructor
    · intro left y held waits before given
      refine left ⟨y.1, List.mem_map.mpr ⟨y, ?_, Prod.ext rfl given⟩⟩
      exact (mem_front_iff split).mpr ⟨⟨held, waits⟩, before⟩
    · rintro left ⟨o, given⟩
      obtain ⟨y, early, same⟩ := List.mem_map.mp given
      obtain ⟨⟨held, waits⟩, before⟩ := (mem_front_iff split).mp early
      exact left y held waits before (congrArg Prod.snd same)

theorem observedAt_greedy (weekend : Weekend) (os : List Occurrence) :
    Greedy weekend os fun x => (observedAt weekend os x).2 where
  stays x _ stays := by simp [observedAt, stays]
  moves x held waits t := by
    obtain ⟨pre, post, split⟩ := List.append_of_mem (mem_queue.mpr ⟨held, waits⟩)
    have same : {d | x.1.date < d ∧
        Free weekend (claims weekend (staying weekend os) (pre.map Prod.fst)) d} =
        {d | x.1.date < d ∧ weekend.covers d = false ∧
          (∀ y ∈ os.zipIdx, weekend.covers y.1.date = false → y.1.date ≠ d) ∧
          ∀ y ∈ os.zipIdx, weekend.covers y.1.date = true → Before y x →
            (observedAt weekend os y).2 ≠ some d} := by
      ext d
      exact and_congr Iff.rfl (and_congr Iff.rfl (not_mem_claims_iff split))
    rw [(observedAt_of_split split).2, nextFree?_eq_some_iff_isLeast, same]

theorem move?_eq_some {range : DateRange} {o a : Occurrence} {r : Option Date}
    (h : move? range o r = some a) : r = some a.date ∧ (a.date = o.date → a = o) := by
  unfold move? at h
  split at h
  · cases h
  · next d =>
    split at h
    · next same =>
      cases h
      exact ⟨congrArg some same, fun _ => rfl⟩
    · next moved =>
      split at h
      · cases h
        exact ⟨rfl, fun same => absurd same moved⟩
      · cases h

end

def remaining (weekend : Weekend) (shiftable : List String) (os : List Occurrence) :
    List Occurrence :=
  os.filter fun o => shiftable.contains o.key || !weekend.covers o.date

/-- Under the cascading policy holidays are shifted by the greedy rule. The days given ascend, none
is the day of a holiday that stays, and those that share a day were not shifted. -/
theorem apply_nextAvailable_greedy {weekend : Weekend} (business : ∃ day, weekend.has day = false)
    (shiftable : List String) (range : DateRange) (os : List Occurrence) :
    ∃ target : Occurrence × Nat → Option Date,
      apply .nextAvailable weekend shiftable range os =
        (remaining weekend shiftable os).zipIdx.filterMap (fun x => move? range x.1 (target x)) ∧
      Greedy weekend (remaining weekend shiftable os) target ∧
      (∀ x ∈ (remaining weekend shiftable os).zipIdx,
        ∀ y ∈ (remaining weekend shiftable os).zipIdx,
        weekend.covers x.1.date = true → weekend.covers y.1.date = true → Before x y →
        ∀ s t, target x = some s → target y = some t → s < t) ∧
      (∀ x ∈ (remaining weekend shiftable os).zipIdx,
        ∀ y ∈ (remaining weekend shiftable os).zipIdx,
        weekend.covers x.1.date = true → x ≠ y → ∀ t, target x = some t → target y ≠ some t) ∧
      ∀ x ∈ (remaining weekend shiftable os).zipIdx,
        ∀ y ∈ (remaining weekend shiftable os).zipIdx, x ≠ y →
        ∀ a b, move? range x.1 (target x) = some a → move? range y.1 (target y) = some b →
        a.date = b.date → a = x.1 ∧ b = y.1 := by
  have greedy := observedAt_greedy weekend (remaining weekend shiftable os)
  refine ⟨_, ?_, greedy, ?_, ?_, ?_⟩
  · have observed := observances_eq (Weekend.isWhole_eq_false_iff.mpr business)
      (remaining weekend shiftable os)
    have applied : apply .nextAvailable weekend shiftable range os =
        (observances weekend (remaining weekend shiftable os)).filterMap fun x =>
          move? range x.1 x.2 := rfl
    rw [applied, observed, List.filterMap_map]
    rfl
  · intro x hx y hy waits waits' before s t given given'
    exact greedy.lt_of_before hx hy waits waits' before given given'
  · intro x hx y hy waits apart t given given'
    obtain ⟨own, -⟩ := greedy.stays_of_shared hx hy apart given given'
    obtain ⟨⟨later, -⟩, -⟩ := (greedy.moves x hx waits t).mp given
    exact absurd (own ▸ later) (Int.lt_irrefl _)
  · intro x hx y hy apart a b moved moved' shared
    obtain ⟨given, whole⟩ := move?_eq_some moved
    obtain ⟨given', whole'⟩ := move?_eq_some moved'
    obtain ⟨own, own'⟩ := greedy.stays_of_shared hx hy apart given (shared ▸ given')
    exact ⟨whole own.symm, whole' (shared ▸ own'.symm)⟩

/-- A day of January 2022, whose first is a Saturday. -/
def january (day : Fin 32) : Date := (Date.ofNumber? (738155 + day)).getD .first

def turnOfYearHolidays : List Occurrence :=
  [⟨"second-day", january 2, "Second Day", "rule:second-day"⟩,
    ⟨"new-year", january 1, "New Year", "rule:new-year"⟩,
    ⟨"bridge", january 3, "Bridge Day", "rule:bridge"⟩,
    ⟨"market", january 1, "Market", "rule:market"⟩,
    ⟨"parade", january 1, "Parade", "rule:parade"⟩]

def turnOfYearKeys : List String := ["new-year", "second-day", "parade"]

def januaryRange : DateRange := ⟨january 1, january 31, by decide⟩

/-- The day after the bridge day goes to the first of two holidays on Saturday, the market is
dropped, and the holiday on Sunday comes last. -/
theorem apply_nextAvailable_greedy_turnOfYear :
    (∃ day, Weekend.satSun.has day = false) ∧
    (apply .nextAvailable .satSun turnOfYearKeys januaryRange turnOfYearHolidays).map
      Occurrence.date = [january 6, january 4, january 3, january 5] ∧
    ∃ target : Occurrence × Nat → Option Date,
      apply .nextAvailable .satSun turnOfYearKeys januaryRange turnOfYearHolidays =
        (remaining .satSun turnOfYearKeys turnOfYearHolidays).zipIdx.filterMap
          (fun x => move? januaryRange x.1 (target x)) ∧
      Greedy .satSun (remaining .satSun turnOfYearKeys turnOfYearHolidays) target := by
  have business : ∃ day, Weekend.satSun.has day = false := ⟨.mon, by decide⟩
  obtain ⟨target, applied, greedy, -⟩ :=
    apply_nextAvailable_greedy business turnOfYearKeys januaryRange turnOfYearHolidays
  refine ⟨business, ?_, target, applied, greedy⟩
  simp only [apply, targets, nextAvailable, pending_eq_insertionSort]
  decide +kernel

end Holidays.Observance
