import Holidays.Proofs.Observance.Conservation
import Holidays.Proofs.Observance.Greedy

/-!
The nearest business day. The search looks at both sides of a date, one distance after the other and
the later side first; a week holds every weekday on one side at least, so seven distances are enough
even at the ends of the calendar. Each holiday is observed on the day nearest to its own, or lost.
-/
namespace Holidays

/-- A weekday is not further from any date than six days, on the side where there are dates. -/
theorem Date.exists_weekday_near (d : Date) (day : Weekday) :
    ∃ x : Date, x.weekday = day ∧ d.number - 6 ≤ x.number ∧ x.number ≤ d.number + 6 := by
  have bounds := d.number_bounds
  have few := day.index_lt
  have gap : Date.first.number + 6 ≤ Date.last.number := by decide
  have onDay {x : Date} (n : Int)
      (there : x.number = d.number + ((day.index : Int) - (d.number - 1)) % 7 + 7 * n) :
      x.weekday = day := by
    rw [Date.weekday, Weekday.ofMonday_eq_iff]
    omega
  by_cases room : d.number + ((day.index : Int) - (d.number - 1)) % 7 ≤ Date.last.number
  · obtain ⟨x, found⟩ := Date.exists_addDays? (d := d)
      (n := ((day.index : Int) - (d.number - 1)) % 7) (by omega) room
    rw [Date.addDays?_eq_some_iff] at found
    exact ⟨x, onDay 0 (by omega), by omega, by omega⟩
  · obtain ⟨x, found⟩ := Date.exists_addDays? (d := d)
      (n := ((day.index : Int) - (d.number - 1)) % 7 - 7) (by omega) (by omega)
    rw [Date.addDays?_eq_some_iff] at found
    exact ⟨x, onDay (-1) (by omega), by omega, by omega⟩

namespace Observance

def distance (d e : Date) : Nat := (e.number - d.number).natAbs

structure Nearest (weekend : Weekend) (d t : Date) : Prop where
  business : weekend.covers t = false
  closest : ∀ x, weekend.covers x = false → distance d t ≤ distance d x
  later : ∀ x, weekend.covers x = false → distance d x = distance d t → x ≤ t

section

variable {weekend : Weekend} {d : Date}

theorem Nearest.unique {s t : Date} (hs : Nearest weekend d s) (ht : Nearest weekend d t) :
    s = t := by
  have same : distance d s = distance d t :=
    Nat.le_antisymm (hs.closest t ht.business) (ht.closest s hs.business)
  exact Date.ext_number (Int.le_antisymm (ht.later s hs.business same)
    (hs.later t ht.business same.symm))

def atDistance? (weekend : Weekend) (d : Date) (n : Int) : Option Date :=
  ([d.addDays? n, d.addDays? (-n)].filterMap id).find? fun c => !weekend.covers c

theorem nearest?_of_weekend (waits : weekend.covers d = true) :
    nearest? weekend d = (span 1 7).findSome? (atDistance? weekend d) := if_pos waits

theorem atDistance?_eq_none {n : Int} (h : atDistance? weekend d n = none) {x : Date}
    (there : x.number = d.number + n ∨ x.number = d.number - n) : weekend.covers x = true := by
  have listed : x ∈ [d.addDays? n, d.addDays? (-n)].filterMap id := by
    rw [List.mem_filterMap]
    rcases there with ahead | back
    · exact ⟨d.addDays? n, by simp, Date.addDays?_eq_some_iff.mpr ahead⟩
    · exact ⟨d.addDays? (-n), by simp, Date.addDays?_eq_some_iff.mpr (by omega)⟩
  simpa using List.find?_eq_none.mp h x listed

theorem atDistance?_eq_some {n : Int} {t : Date} (h : atDistance? weekend d n = some t) :
    weekend.covers t = false ∧ (t.number = d.number + n ∨ t.number = d.number - n ∧
      ∀ x : Date, x.number = d.number + n → weekend.covers x = true) := by
  have business : weekend.covers t = false := by simpa using List.find?_some h
  refine ⟨business, ?_⟩
  unfold atDistance? at h
  cases ahead : d.addDays? n with
  | none =>
    have nothing (x : Date) : x.number ≠ d.number + n := by
      intro there
      rw [Date.addDays?_eq_some_iff.mpr there] at ahead
      cases ahead
    rw [ahead] at h
    have listed := List.mem_of_find?_eq_some h
    have back : some t = d.addDays? (-n) := by simpa using listed
    have place := Date.addDays?_eq_some_iff.mp back.symm
    exact .inr ⟨by omega, fun x there => absurd there (nothing x)⟩
  | some later =>
    have place := Date.addDays?_eq_some_iff.mp ahead
    cases covered : weekend.covers later with
    | false =>
      have first : later = t := by simpa [ahead, covered] using h
      exact .inl (first ▸ place)
    | true =>
      have second : d.addDays? (-n) = some t := by
        cases back : d.addDays? (-n) <;> simp_all
      rw [Date.addDays?_eq_some_iff] at second
      refine .inr ⟨by omega, ?_⟩
      intro x there
      rw [Date.ext_number (there.trans place.symm)]
      exact covered

/-- Every business day is at least as far away as the distance at which the search stops. -/
theorem le_distance {n : Int} (waits : weekend.covers d = true)
    (missed : ∀ m, 1 ≤ m → m < n → atDistance? weekend d m = none) {x : Date}
    (business : weekend.covers x = false) : n ≤ distance d x := by
  by_contra closer
  have apart : x.number ≠ d.number := by
    intro same
    rw [Date.ext_number same, waits] at business
    cases business
  have covered := atDistance?_eq_none (missed (distance d x) (by simp only [distance]; omega)
    (by omega)) (x := x) (by simp only [distance]; omega)
  rw [business] at covered
  cases covered

theorem nearest_of_nearest? {t : Date} (h : nearest? weekend d = some t) : Nearest weekend d t := by
  cases waits : weekend.covers d with
  | false =>
    rw [nearest?_of_business waits] at h
    cases h
    refine ⟨waits, fun x _ => by simp [distance], ?_⟩
    intro x _ same
    have same : x.number = d.number := by simpa [distance, Int.sub_eq_zero] using same
    exact Int.le_of_eq same
  | true =>
    rw [nearest?_of_weekend waits] at h
    obtain ⟨n, low, -, found, missed⟩ := findSome?_span_eq_some h
    obtain ⟨business, place⟩ := atDistance?_eq_some found
    have far : (distance d t : Int) = n := by
      simp only [distance]
      omega
    refine ⟨business, ?_, ?_⟩
    · intro x business
      have := le_distance waits missed business
      omega
    · intro x business same
      rcases place with ahead | ⟨back, covered⟩
      · show x.number ≤ t.number
        simp only [distance] at same
        omega
      · -- The later day at this distance was tried first.
        have notAhead : x.number ≠ d.number + n := by
          intro ahead
          rw [covered x ahead] at business
          cases business
        show x.number ≤ t.number
        simp only [distance] at same
        omega

theorem nearest?_eq_none_iff : nearest? weekend d = none ↔ ∀ day, weekend.has day = true := by
  constructor
  · intro missing day
    cases waits : weekend.covers d with
    | false =>
      rw [nearest?_of_business waits] at missing
      cases missing
    | true =>
      rw [nearest?_of_weekend waits, List.findSome?_eq_none_iff] at missing
      obtain ⟨x, rfl, low, high⟩ := d.exists_weekday_near day
      by_cases same : x.number = d.number
      · rw [Date.ext_number same]
        exact waits
      · have near : (distance d x : Int) ∈ span 1 7 := by
          rw [mem_span]
          simp only [distance]
          omega
        exact atDistance?_eq_none (missing _ near) (x := x) (by simp only [distance]; omega)
  · intro whole
    cases found : nearest? weekend d with
    | none => rfl
    | some t =>
      have business : weekend.has t.weekday = false := nearest?_business found
      rw [whole] at business
      cases business

theorem nearest?_eq_some_iff {t : Date} : nearest? weekend d = some t ↔ Nearest weekend d t := by
  constructor
  · exact nearest_of_nearest?
  · intro nearest
    cases found : nearest? weekend d with
    | none =>
      have business : weekend.has t.weekday = false := nearest.business
      rw [nearest?_eq_none_iff.mp found] at business
      cases business
    | some s => rw [(nearest_of_nearest? found).unique nearest]

theorem exists_nearest (business : ∃ day, weekend.has day = false) (d : Date) :
    ∃ t, Nearest weekend d t := by
  cases found : nearest? weekend d with
  | none =>
    obtain ⟨day, free⟩ := business
    rw [nearest?_eq_none_iff.mp found] at free
    cases free
  | some t => exact ⟨t, nearest_of_nearest? found⟩

theorem apply_nearest_eq (weekend : Weekend) (shiftable : List String) (range : DateRange)
    (os : List Occurrence) :
    apply .nearest weekend shiftable range os = (remaining weekend shiftable os).filterMap
      fun o => move? range o (nearest? weekend o.date) := by
  have moves : ¬ ShiftPolicy.nearest = ShiftPolicy.none := by decide
  rw [apply, if_neg moves]
  simp only [targets, List.map_map]
  rw [← List.map_prod_left_eq_zip, List.filterMap_map]
  rfl

theorem move?_nearest? (range : DateRange) {o : Occurrence} (waits : weekend.covers o.date = true) :
    move? range o (nearest? weekend o.date) =
      ((nearest? weekend o.date).filter fun t => range.Contains t).map fun t =>
        ⟨o.key, t, o.name, o.provenance ++ ";observed-from=" ++ o.date.text⟩ := by
  cases found : nearest? weekend o.date with
  | none => rfl
  | some t =>
    have other : t ≠ o.date := by
      rintro rfl
      rw [nearest?_business found] at waits
      cases waits
    by_cases inside : range.Contains t <;> simp [move?, other, inside, Option.filter_some]

theorem filter_nearest?_eq_none_iff (p : Date → Bool) :
    (nearest? weekend d).filter p = none ↔
      (∀ day, weekend.has day = true) ∨ ∃ t, Nearest weekend d t ∧ p t = false := by
  simp only [← nearest?_eq_none_iff (d := d), ← nearest?_eq_some_iff]
  cases nearest? weekend d <;> simp

end

/-- Of the holidays that remain, those of business days keep their day, and each of the others goes
to the one nearest business day. It is lost just where no weekday is left for business or where that
day lies outside the range. -/
theorem apply_nearest (weekend : Weekend) (shiftable : List String) (range : DateRange)
    (os : List Occurrence) :
    ∃ outcome : Occurrence → Option Occurrence,
      apply .nearest weekend shiftable range os =
        (remaining weekend shiftable os).filterMap outcome ∧
      ∀ o,
        (weekend.covers o.date = false → outcome o = some o) ∧
        (weekend.covers o.date = true →
          ((∃ day, weekend.has day = false) → ∃! t, Nearest weekend o.date t) ∧
          (∀ a, outcome o = some a ↔ ∃ t, Nearest weekend o.date t ∧ range.Contains t ∧
            a = ⟨o.key, t, o.name, o.provenance ++ ";observed-from=" ++ o.date.text⟩) ∧
          (outcome o = none ↔ (∀ day, weekend.has day = true) ∨
            ∃ t, Nearest weekend o.date t ∧ ¬ range.Contains t)) := by
  refine ⟨_, apply_nearest_eq weekend shiftable range os, ?_⟩
  intro o
  refine ⟨?_, fun waits => ⟨?_, ?_⟩⟩
  · intro business
    simp [nearest?_of_business business, move?]
  · intro business
    obtain ⟨t, nearest⟩ := exists_nearest business o.date
    exact ⟨t, nearest, fun s other => other.unique nearest⟩
  · rw [move?_nearest? range waits]
    constructor
    · intro a
      simp only [Option.map_eq_some_iff, Option.filter_eq_some_iff, nearest?_eq_some_iff,
        decide_eq_true_eq, and_assoc, eq_comm (b := a)]
    · rw [Option.map_eq_none_iff, filter_nearest?_eq_none_iff]
      simp only [decide_eq_false_iff_not]

/-- The last date there is, a Monday, has days on one side only. -/
example : nearest? (.ofList [.sun, .mon]) Date.last = Date.last.addDays? (-2) := by decide

end Observance

end Holidays
