import Holidays.Civil.Range

namespace Holidays

namespace Civil

theorem yearOf_mono {m n : Int} (h : m ≤ n) : yearOf m ≤ yearOf n := by
  have low := yearOf_bounds m
  have high := yearOf_bounds n
  by_cases later : yearOf n < yearOf m
  · have := yearStart_mono (y := yearOf n + 1) (z := yearOf m) (by omega)
    omega
  · omega

/-- A year has at least 365 days, so that many lead at most into the next one. -/
theorem yearOf_le_succ {m n : Int} (near : m ≤ n + 365) : yearOf m ≤ yearOf n + 1 := by
  have low := yearOf_bounds m
  have high := yearOf_bounds n
  by_cases later : yearOf n + 1 < yearOf m
  · have long : yearStart (yearOf n + 1) + 365 ≤ yearStart (yearOf n + 2) := by
      simp only [yearStart]
      omega
    have := yearStart_mono (y := yearOf n + 2) (z := yearOf m) (by omega)
    omega
  · omega

end Civil

namespace Date

theorem number_bounds (d : Date) : first.number ≤ d.number ∧ d.number ≤ last.number :=
  ⟨d.notBefore, Int.le_sub_one_of_lt d.notAfter⟩

theorem year_mono {a b : Date} (h : a ≤ b) : a.year ≤ b.year := Civil.yearOf_mono h

theorem year_le_succ {a b : Date} (near : a.number ≤ b.number + 365) : a.year ≤ b.year + 1 :=
  Civil.yearOf_le_succ near

theorem addDays?_eq_some_iff {d e : Date} {n : Int} :
    d.addDays? n = some e ↔ e.number = d.number + n := by
  rw [addDays?, ofNumber?_eq_some_iff]

theorem exists_addDays? {d : Date} {n : Int} (low : first.number ≤ d.number + n)
    (high : d.number + n ≤ last.number) : ∃ e, d.addDays? n = some e :=
  ⟨⟨d.number + n, low, Int.lt_of_le_sub_one high⟩, addDays?_eq_some_iff.mpr rfl⟩

theorem addDays?_eq_none {d : Date} {n : Int} (h : d.addDays? n = none) :
    d.number + n < first.number ∨ last.number < d.number + n := by
  by_cases low : first.number ≤ d.number + n
  · by_cases high : d.number + n ≤ last.number
    · obtain ⟨e, found⟩ := exists_addDays? low high
      rw [h] at found
      cases found
    · exact Or.inr (Int.lt_of_not_ge high)
  · exact Or.inl (Int.lt_of_not_ge low)

theorem ofYmd?_self (d : Date) : ofYmd? d.year d.month d.day = some d :=
  ofYmd?_eq_some_iff.mpr ⟨rfl, rfl, rfl⟩

theorem year_of_ofYmd? {year : Int} {month day : Nat} {d : Date}
    (h : ofYmd? year month day = some d) : d.year = year := (ofYmd?_eq_some_iff.mp h).1

theorem number_of_ofYmd? {year : Int} {month day : Nat} {d : Date}
    (h : ofYmd? year month day = some d) :
    Civil.HasDay year month day ∧ d.number = Civil.numberOf year month day := by
  unfold ofYmd? at h
  split at h
  · next has => exact ⟨has, ofNumber?_eq_some_iff.mp h⟩
  · cases h

theorem exists_ofYmd? {year : Int} {month day : Nat} (low : Civil.firstYear ≤ year)
    (high : year ≤ Civil.lastYear) (has : Civil.HasDay year month day) :
    ∃ d, ofYmd? year month day = some d := by
  have first := Civil.yearStart_mono low
  have last := Civil.yearStart_mono (Int.add_le_add_right high 1)
  have length := Civil.yearStart_succ year
  have within := MonthTable.daysBefore_add_le_total has
  have positive := has.1
  have number : ∃ d : Date, d.number = Civil.numberOf year month day :=
    ⟨⟨Civil.numberOf year month day, by simp only [Civil.numberOf]; omega,
      by simp only [Civil.numberOf]; omega⟩, rfl⟩
  obtain ⟨d, numbered⟩ := number
  refine ⟨d, ?_⟩
  rw [ofYmd?, if_pos has, ofNumber?_eq_some_iff]
  exact numbered

end Date

theorem byDate_trans {α : Type} (date : α → Date) (x y z : α)
    (h : decide (date x ≤ date y) = true) (h' : decide (date y ≤ date z) = true) :
    decide (date x ≤ date z) = true := by
  simp only [decide_eq_true_eq] at *
  exact Int.le_trans h h'

theorem byDate_total {α : Type} (date : α → Date) (x y : α) :
    (decide (date x ≤ date y) || decide (date y ≤ date x)) = true := by
  simp only [Bool.or_eq_true, decide_eq_true_eq]
  exact Int.le_total _ _

namespace DateRange

def Within (inner outer : DateRange) : Prop := outer.first ≤ inner.first ∧ inner.last ≤ outer.last

theorem Within.contains {inner outer : DateRange} (h : inner.Within outer) {d : Date}
    (hd : inner.Contains d) : outer.Contains d :=
  ⟨Int.le_trans h.1 hd.1, Int.le_trans hd.2 h.2⟩

theorem Within.filter_filter {α : Type} {inner outer : DateRange} (h : inner.Within outer)
    (date : α → Date) (as : List α) :
    (as.filter fun a => outer.Contains (date a)).filter (fun a => inner.Contains (date a)) =
      as.filter fun a => inner.Contains (date a) := by
  rw [List.filter_filter]
  apply List.filter_congr
  intro a _
  by_cases inside : inner.Contains (date a)
  · simp [inside, h.contains inside]
  · simp [inside]

theorem mem_widen {r : DateRange} {n : Nat} {d : Date} :
    (r.widen n).Contains d ↔ r.first.number - n ≤ d.number ∧ d.number ≤ r.last.number + n := by
  have here := d.number_bounds
  have start := r.first.number_bounds
  have finish := r.last.number_bounds
  have low : (r.widen n).first.number ≤ d.number ↔ r.first.number - n ≤ d.number := by
    show ((r.first.addDays? (-n)).getD Date.first).number ≤ _ ↔ _
    cases found : r.first.addDays? (-n) with
    | none =>
      have := Date.addDays?_eq_none found
      simp only [Option.getD]
      omega
    | some e =>
      rw [Date.addDays?_eq_some_iff] at found
      simp only [Option.getD]
      omega
  have high : d.number ≤ (r.widen n).last.number ↔ d.number ≤ r.last.number + n := by
    show _ ≤ ((r.last.addDays? n).getD Date.last).number ↔ _
    cases found : r.last.addDays? n with
    | none =>
      have := Date.addDays?_eq_none found
      simp only [Option.getD]
      omega
    | some e =>
      rw [Date.addDays?_eq_some_iff] at found
      simp only [Option.getD]
      omega
  exact and_congr low high

theorem Within.widen {inner outer : DateRange} (h : inner.Within outer) (n : Nat) :
    (inner.widen n).Within (outer.widen n) := by
  have first := mem_widen.mp ⟨Int.le_refl _, (inner.widen n).ordered⟩
  have last := mem_widen.mp ⟨(inner.widen n).ordered, Int.le_refl _⟩
  have low : outer.first.number ≤ inner.first.number := h.1
  have high : inner.last.number ≤ outer.last.number := h.2
  exact ⟨(mem_widen.mpr ⟨by omega, by omega⟩ : (outer.widen n).Contains (inner.widen n).first).1,
    (mem_widen.mpr ⟨by omega, by omega⟩ : (outer.widen n).Contains (inner.widen n).last).2⟩

theorem of_eq_ok {first last : Date} (h : first ≤ last) :
    DateRange.of first last = .ok ⟨first, last, h⟩ := dif_pos h

end DateRange

end Holidays
