import Holidays.Proofs.Chronology.DateOrder
import Holidays.Proofs.Generation.WeekdaySearch
import Mathlib.Order.Bounds.Defs

/-!
Ordinal weekdays of a month. The nth one has one less before it in the month, and the last one is
the greatest. The last one is sought back from the first of the next month, which is why the very
last month of the calendar is the one that has none.
-/
namespace Holidays

namespace Civil

variable {year : Int} {month length : Nat}

def monthStart (year : Int) (month : Nat) : Int := numberOf year month 1

def lengthOf? (year : Int) (month : Nat) : Option Nat :=
  MonthTable.lengthOf? (monthLengths (isLeap year)) month

theorem lengthOf?_bounds (sized : lengthOf? year month = some length) :
    28 ≤ length ∧ length ≤ 31 := by
  have held : length ∈ monthLengths (isLeap year) := by
    cases month with
    | zero => cases sized
    | succ k => exact List.mem_of_getElem? sized
  have each : ∀ leap, ∀ n ∈ monthLengths leap, 28 ≤ n ∧ n ≤ 31 := by decide
  exact each _ _ held

theorem lengthOf?_month (sized : lengthOf? year month = some length) : 1 ≤ month ∧ month ≤ 12 := by
  have positive := (lengthOf?_bounds sized).1
  have has : MonthTable.HasDay (monthLengths (isLeap year)) month 1 :=
    ⟨Nat.le_refl 1, length, sized, by omega⟩
  exact has.month_bounds

theorem exists_lengthOf? (year : Int) (low : 1 ≤ month) (high : month ≤ 12) :
    ∃ length, lengthOf? year month = some length := by
  cases month with
  | zero => cases low
  | succ k =>
    have within : k < (monthLengths (isLeap year)).length := high
    exact ⟨_, List.getElem?_eq_getElem within⟩

theorem numberOf_eq (year : Int) (month day : Nat) :
    numberOf year month day = monthStart year month + day - 1 := by
  simp only [monthStart, numberOf]
  omega

theorem monthStart_next (sized : lengthOf? year month = some length) :
    monthStart year (month + 1) = monthStart year month + length := by
  have next := MonthTable.daysBefore_succ sized
  simp only [monthStart, numberOf, next]
  omega

theorem monthStart_december (sized : lengthOf? year 12 = some length) :
    monthStart (year + 1) 1 = monthStart year 12 + length := by
  have all : MonthTable.daysBefore (monthLengths (isLeap year)) 13 =
      MonthTable.total (monthLengths (isLeap year)) :=
    MonthTable.daysBefore_eq_total (Nat.lt_succ_self 12)
  have next := monthStart_next sized
  have turn := yearStart_succ year
  have january : MonthTable.daysBefore (monthLengths (isLeap (year + 1))) 1 = 0 := rfl
  simp only [monthStart, numberOf, all, january] at *
  omega

theorem first_le_monthStart (low : firstYear ≤ year) (month : Nat) :
    Date.first.number ≤ monthStart year month := by
  have begun : Date.first.number ≤ yearStart year := yearStart_mono low
  simp only [monthStart, numberOf]
  omega

theorem monthEnd_le_last (high : year ≤ lastYear) (sized : lengthOf? year month = some length) :
    monthStart year month + length - 1 ≤ Date.last.number := by
  have positive := (lengthOf?_bounds sized).1
  have has : HasDay year month length := ⟨by omega, length, sized, Nat.le_refl _⟩
  have within := MonthTable.daysBefore_add_le_total has
  have next := yearStart_succ year
  have ends : yearStart (year + 1) - 1 ≤ Date.last.number :=
    Int.sub_le_sub_right (yearStart_mono (Int.add_le_add_right high 1)) 1
  simp only [monthStart, numberOf]
  omega

end Civil

namespace Date

variable {year : Int} {month length : Nat} {weekday : Weekday} {d : Date}

theorem number_of_month (inYear : d.year = year) (inMonth : d.month = month) :
    d.number = Civil.monthStart year month + d.day - 1 := by
  rw [← inYear, ← inMonth, ← Civil.numberOf_eq]
  exact (number_of_ofYmd? (ofYmd?_self d)).2

theorem in_month_iff (sized : Civil.lengthOf? year month = some length) :
    d.year = year ∧ d.month = month ↔
      Civil.monthStart year month ≤ d.number ∧
        d.number < Civil.monthStart year month + length := by
  constructor
  · rintro ⟨rfl, rfl⟩
    obtain ⟨⟨first, size, same, within⟩, -⟩ := number_of_ofYmd? (ofYmd?_self d)
    cases sized.symm.trans same
    have place := number_of_month (d := d) rfl rfl
    omega
  · rintro ⟨begun, before⟩
    obtain ⟨day, passed⟩ : ∃ day : Nat, d.number = Civil.numberOf year month day := by
      refine ⟨(d.number - Civil.monthStart year month + 1).toNat, ?_⟩
      rw [Civil.numberOf_eq]
      omega
    have has : Civil.HasDay year month day := by
      rw [Civil.numberOf_eq] at passed
      exact ⟨by omega, length, sized, by omega⟩
    obtain ⟨inYear, inMonth⟩ := Civil.yearOf_numberOf has
    rw [← passed] at inYear inMonth
    exact ⟨inYear, congrArg Prod.fst inMonth⟩

def monthWeekdays (year : Int) (month : Nat) (weekday : Weekday) : Set Date :=
  {e | e.year = year ∧ e.month = month ∧ e.weekday = weekday}

theorem mem_monthWeekdays_iff (sized : Civil.lengthOf? year month = some length) :
    d ∈ monthWeekdays year month weekday ↔
      (Civil.monthStart year month ≤ d.number ∧
        d.number < Civil.monthStart year month + length) ∧ d.weekday = weekday := by
  rw [← in_month_iff sized, and_assoc]
  rfl

theorem month_of_mem (held : d ∈ monthWeekdays year month weekday) : 1 ≤ month ∧ month ≤ 12 := by
  obtain ⟨-, rfl, -⟩ := held
  exact (number_of_ofYmd? (ofYmd?_self d)).1.month_bounds

/-- Before a date of a month the month has a date with its weekday for every week passed. -/
theorem ncard_monthWeekdays_before (sized : Civil.lengthOf? year month = some length)
    (held : d ∈ monthWeekdays year month weekday) :
    ({e ∈ monthWeekdays year month weekday | e < d}.ncard : Int) =
      (d.number - Civil.monthStart year month) / 7 := by
  obtain ⟨⟨begun, before⟩, reached⟩ := (mem_monthWeekdays_iff sized).mp held
  have here : Civil.firstYear ≤ year := held.1 ▸ d.year_bounds.1
  have low := Civil.first_le_monthStart here month
  have high := d.number_bounds.2
  have listed : {e ∈ monthWeekdays year month weekday | e < d} =
      weekdaysFrom weekday .after (Civil.monthStart year month - 1) d := by
    ext e
    have earlier : Direction.after.Ahead e d ↔ e.number < d.number := Iff.rfl
    have less : e < d ↔ e.number < d.number := Iff.rfl
    simp only [Set.mem_ofPred_eq, mem_monthWeekdays_iff sized, weekdaysFrom, earlier, less,
      Direction.step]
    constructor
    · rintro ⟨⟨within, same⟩, sooner⟩
      exact ⟨same, by omega, sooner⟩
    · rintro ⟨same, after, sooner⟩
      exact ⟨⟨by omega, same⟩, sooner⟩
  have ahead : 0 < Direction.after.step * (d.number - (Civil.monthStart year month - 1)) := by
    simp only [Direction.step]
    omega
  rw [listed, ncard_weekdaysFrom (by omega) (by omega) reached ahead]
  simp only [Direction.step]
  omega

theorem isGreatest_monthWeekdays_iff (sized : Civil.lengthOf? year month = some length) :
    IsGreatest (monthWeekdays year month weekday) d ↔ d ∈ monthWeekdays year month weekday ∧
      Civil.monthStart year month + length ≤ d.number + 7 := by
  apply and_congr_right
  intro held
  obtain ⟨⟨begun, before⟩, reached⟩ := (mem_monthWeekdays_iff sized).mp held
  constructor
  · intro greatest
    by_contra early
    have here : year ≤ Civil.lastYear := held.1 ▸ d.year_bounds.2
    have high := Civil.monthEnd_le_last here sized
    have low := d.number_bounds.1
    obtain ⟨e, moved⟩ : ∃ e, d.addDays? 7 = some e := exists_addDays? (by omega) (by omega)
    rw [addDays?_eq_some_iff] at moved
    have again : e.weekday = d.weekday := weekday_eq_iff.mpr (by omega)
    have least : e.number ≤ d.number :=
      greatest ((mem_monthWeekdays_iff sized).mpr ⟨by omega, again.trans reached⟩)
    omega
  · intro late e listed
    obtain ⟨⟨-, before'⟩, reached'⟩ := (mem_monthWeekdays_iff sized).mp listed
    have same := weekday_eq_iff.mp (reached'.trans reached.symm)
    show e.number ≤ d.number
    omega

end Date

section

variable {year : Int} {month length : Nat} {weekday : Weekday}

theorem exists_monthFirst (low : Civil.firstYear ≤ year) (high : year ≤ Civil.lastYear)
    (sized : Civil.lengthOf? year month = some length) :
    ∃ first, Date.ofYmd? year month 1 = some first ∧
      first.number = Civil.monthStart year month := by
  have positive := (Civil.lengthOf?_bounds sized).1
  obtain ⟨first, named⟩ := Date.exists_ofYmd? low high
    (⟨Nat.le_refl 1, length, sized, by omega⟩ : Civil.HasDay year month 1)
  exact ⟨first, named, (Date.number_of_ofYmd? named).2⟩

def nextFirst? (year : Int) (month : Nat) : Option Date :=
  if month = 12 then Date.ofYmd? (year + 1) 1 1 else Date.ofYmd? year (month + 1) 1

theorem number_nextFirst? (sized : Civil.lengthOf? year month = some length) {next : Date}
    (found : nextFirst? year month = some next) :
    next.number = Civil.monthStart year month + length := by
  unfold nextFirst? at found
  split at found
  · next december =>
    subst december
    exact (Date.number_of_ofYmd? found).2.trans (Civil.monthStart_december sized)
  · exact (Date.number_of_ofYmd? found).2.trans (Civil.monthStart_next sized)

theorem exists_nextFirst?_iff (low : Civil.firstYear ≤ year) (high : year ≤ Civil.lastYear)
    (sized : Civil.lengthOf? year month = some length) :
    (∃ next, nextFirst? year month = some next) ↔ ¬ (year = Civil.lastYear ∧ month = 12) := by
  unfold nextFirst?
  split
  · next december =>
    constructor
    · rintro ⟨next, found⟩ ⟨rfl, -⟩
      have beyond := next.year_bounds.2
      rw [Date.year_of_ofYmd? found] at beyond
      omega
    · intro other
      have earlier : year ≠ Civil.lastYear := fun same => other ⟨same, december⟩
      obtain ⟨january, sized'⟩ := Civil.exists_lengthOf? (year + 1) (Nat.le_refl 1)
        (by decide)
      obtain ⟨next, found, -⟩ := exists_monthFirst (by omega) (by omega) sized'
      exact ⟨next, found⟩
  · next other =>
    have within := (Civil.lengthOf?_month sized).2
    obtain ⟨following, sized'⟩ := Civil.exists_lengthOf? year
      (show 1 ≤ month + 1 by omega) (by omega)
    obtain ⟨next, found, -⟩ := exists_monthFirst low high sized'
    exact ⟨fun _ last => other last.2, fun _ => ⟨next, found⟩⟩

theorem nthWeekdayOfMonth?_last (year : Int) (month : Nat) (weekday : Weekday) :
    nthWeekdayOfMonth? year month weekday (-1) =
      (Date.ofYmd? year month 1).bind fun _ => (nextFirst? year month).bind fun next =>
        (next.addDays? (-1)).bind fun last =>
          last.addDays? (-(((last.weekday.index : Int) - weekday.index) % 7)) := by
  rw [nthWeekdayOfMonth?, if_pos rfl]
  unfold nextFirst?
  split_ifs <;> rfl

variable {d : Date} {nth : Int}

theorem nthWeekdayOfMonth?_counted (low : Civil.firstYear ≤ year) (high : year ≤ Civil.lastYear)
    (sized : Civil.lengthOf? year month = some length) (counted : 1 ≤ nth) :
    nthWeekdayOfMonth? year month weekday nth = some d ↔
      d ∈ Date.monthWeekdays year month weekday ∧
        (d.number - Civil.monthStart year month) / 7 = nth - 1 := by
  obtain ⟨first, named, number⟩ := exists_monthFirst low high sized
  have start := index_weekday first
  have bound := Weekday.index_lt weekday
  have other : ¬ nth = -1 := by omega
  simp only [nthWeekdayOfMonth?, if_neg other, if_pos counted, named, Option.bind_eq_bind,
    Option.bind_some, Date.ofYmd?_eq_some_iff]
  constructor
  · rintro ⟨inYear, inMonth, day⟩
    have place := Date.number_of_month inYear inMonth
    have reached : d.weekday = weekday := by
      rw [Date.weekday, Weekday.ofMonday_eq_iff]
      omega
    exact ⟨⟨inYear, inMonth, reached⟩, by omega⟩
  · rintro ⟨⟨inYear, inMonth, reached⟩, weeks⟩
    have place := Date.number_of_month inYear inMonth
    have begun := ((Date.in_month_iff sized).mp ⟨inYear, inMonth⟩).1
    rw [Date.weekday, Weekday.ofMonday_eq_iff] at reached
    exact ⟨inYear, inMonth, by omega⟩

theorem nthWeekdayOfMonth?_greatest (low : Civil.firstYear ≤ year)
    (high : year ≤ Civil.lastYear) (sized : Civil.lengthOf? year month = some length) :
    nthWeekdayOfMonth? year month weekday (-1) = some d ↔
      IsGreatest (Date.monthWeekdays year month weekday) d ∧
        ¬ (year = Civil.lastYear ∧ month = 12) := by
  obtain ⟨first, named, -⟩ := exists_monthFirst low high sized
  rw [nthWeekdayOfMonth?_last, named, Option.bind_some, Date.isGreatest_monthWeekdays_iff sized,
    Date.mem_monthWeekdays_iff sized, ← exists_nextFirst?_iff low high sized]
  cases following : nextFirst? year month with
  | none => simp
  | some next =>
    have ends := number_nextFirst? sized following
    have long := (Civil.lengthOf?_bounds sized).1
    have begun := Civil.first_le_monthStart low month
    have closes := Civil.monthEnd_le_last high sized
    obtain ⟨last, stepped⟩ : ∃ last, next.addDays? (-1) = some last :=
      Date.exists_addDays? (by omega) (by omega)
    have index := index_weekday last
    have bound := Weekday.index_lt weekday
    rw [Date.addDays?_eq_some_iff] at stepped
    simp only [Option.bind_some, Date.addDays?_eq_some_iff.mpr stepped, Date.addDays?_eq_some_iff,
      Date.weekday, Weekday.ofMonday_eq_iff, Option.some.injEq, exists_eq', and_true]
    simp only [Date.weekday] at index
    omega

theorem exists_isGreatest_monthWeekdays (low : Civil.firstYear ≤ year)
    (high : year ≤ Civil.lastYear) (sized : Civil.lengthOf? year month = some length)
    (weekday : Weekday) : ∃ d, IsGreatest (Date.monthWeekdays year month weekday) d := by
  have long := (Civil.lengthOf?_bounds sized).1
  have begun := Civil.first_le_monthStart low month
  have closes := Civil.monthEnd_le_last high sized
  obtain ⟨first, -, number⟩ := exists_monthFirst low high sized
  have bound := Weekday.index_lt weekday
  obtain ⟨d, moved⟩ : ∃ d,
      first.addDays? (length - 1 - (first.number + length - 2 - weekday.index) % 7) = some d :=
    Date.exists_addDays? (by omega) (by omega)
  rw [Date.addDays?_eq_some_iff] at moved
  refine ⟨d, (Date.isGreatest_monthWeekdays_iff sized).mpr ⟨?_, by omega⟩⟩
  rw [Date.mem_monthWeekdays_iff sized, Date.weekday, Weekday.ofMonday_eq_iff]
  omega

theorem nthWeekdayOfMonth?_no_month (gone : ¬ (1 ≤ month ∧ month ≤ 12)) :
    nthWeekdayOfMonth? year month weekday nth = none := by
  have none : Date.ofYmd? year month 1 = none := by
    apply Option.eq_none_iff_forall_ne_some.mpr
    intro first named
    exact gone (Date.number_of_ofYmd? named).1.month_bounds
  simp [nthWeekdayOfMonth?, none]

theorem nthWeekdayOfMonth?_uncounted (zero : ¬ 1 ≤ nth) (other : nth ≠ -1) :
    nthWeekdayOfMonth? year month weekday nth = none := by
  rw [nthWeekdayOfMonth?, if_neg other, if_neg zero]

theorem nthWeekdayOfMonth?_eq_some (low : Civil.firstYear ≤ year) (high : year ≤ Civil.lastYear) :
    nthWeekdayOfMonth? year month weekday nth = some d ↔
      d ∈ Date.monthWeekdays year month weekday ∧
        (1 ≤ nth ∧
            ({e ∈ Date.monthWeekdays year month weekday | e < d}.ncard : Int) = nth - 1 ∨
          nth = -1 ∧ (∀ e ∈ Date.monthWeekdays year month weekday, e ≤ d) ∧
            ¬ (year = Civil.lastYear ∧ month = 12)) := by
  by_cases held : 1 ≤ month ∧ month ≤ 12
  · obtain ⟨length, sized⟩ := Civil.exists_lengthOf? year held.1 held.2
    by_cases counted : 1 ≤ nth
    · have other : ¬ nth = -1 := by omega
      rw [nthWeekdayOfMonth?_counted low high sized counted]
      simp only [counted, other, true_and, false_and, or_false]
      apply and_congr_right
      intro listed
      rw [Date.ncard_monthWeekdays_before sized listed]
    · by_cases last : nth = -1
      · subst last
        rw [nthWeekdayOfMonth?_greatest low high sized, IsGreatest, and_assoc]
        simp only [counted, false_and, false_or, true_and]
        rfl
      · simp [nthWeekdayOfMonth?_uncounted counted last, counted, last]
  · simp only [nthWeekdayOfMonth?_no_month held, reduceCtorEq, false_iff]
    exact fun listed => held (Date.month_of_mem listed.1)

theorem exists_last_weekday_iff (low : Civil.firstYear ≤ year) (high : year ≤ Civil.lastYear)
    (first : 1 ≤ month) (within : month ≤ 12) :
    (∃ d, nthWeekdayOfMonth? year month weekday (-1) = some d) ↔
      ¬ (year = Civil.lastYear ∧ month = 12) := by
  obtain ⟨length, sized⟩ := Civil.exists_lengthOf? year first within
  obtain ⟨d, greatest⟩ := exists_isGreatest_monthWeekdays low high sized weekday
  simp only [nthWeekdayOfMonth?_greatest low high sized]
  exact ⟨fun ⟨_, _, other⟩ => other, fun other => ⟨d, greatest, other⟩⟩

/-- No month has a weekday six times. -/
theorem nthWeekdayOfMonth?_beyond (low : Civil.firstYear ≤ year) (high : year ≤ Civil.lastYear)
    (large : 5 < nth) : nthWeekdayOfMonth? year month weekday nth = none := by
  by_cases held : 1 ≤ month ∧ month ≤ 12
  · obtain ⟨length, sized⟩ := Civil.exists_lengthOf? year held.1 held.2
    have short := (Civil.lengthOf?_bounds sized).2
    apply Option.eq_none_iff_forall_ne_some.mpr
    intro d found
    obtain ⟨listed, weeks⟩ :=
      (nthWeekdayOfMonth?_counted low high sized (by omega)).mp found
    have within := ((Date.mem_monthWeekdays_iff sized).mp listed).1
    omega
  · exact nthWeekdayOfMonth?_no_month held

/-- An ordinal gives the date of the month that has the weekday and one less such date before it,
and -1 gives the last one, which only the very last month of the calendar lacks. Other ordinals,
and those of weekdays that the month does not have, give none. -/
theorem nthWeekdayOfMonth?_iff (low : Civil.firstYear ≤ year) (high : year ≤ Civil.lastYear)
    (month : Nat) (weekday : Weekday) (nth : Int) :
    (∀ d, nthWeekdayOfMonth? year month weekday nth = some d ↔
      d ∈ Date.monthWeekdays year month weekday ∧
        (1 ≤ nth ∧
            ({e ∈ Date.monthWeekdays year month weekday | e < d}.ncard : Int) = nth - 1 ∨
          nth = -1 ∧ (∀ e ∈ Date.monthWeekdays year month weekday, e ≤ d) ∧
            ¬ (year = Civil.lastYear ∧ month = 12))) ∧
    (1 ≤ month → month ≤ 12 →
      ((∃ d, nthWeekdayOfMonth? year month weekday (-1) = some d) ↔
        ¬ (year = Civil.lastYear ∧ month = 12))) ∧
    (nth = 0 ∨ nth < -1 ∨ 5 < nth → nthWeekdayOfMonth? year month weekday nth = none) := by
  refine ⟨fun d => nthWeekdayOfMonth?_eq_some low high, exists_last_weekday_iff low high, ?_⟩
  rintro (zero | negative | large)
  · exact nthWeekdayOfMonth?_uncounted (by omega) (by omega)
  · exact nthWeekdayOfMonth?_uncounted (by omega) (by omega)
  · exact nthWeekdayOfMonth?_beyond low high large

end

/-- The last date of the calendar is the fifth Monday of its month, and the last one. -/
theorem nthWeekdayOfMonth?_iff_lastMonday :
    Civil.firstYear ≤ Civil.lastYear ∧
    nthWeekdayOfMonth? Civil.lastYear 12 .mon 5 = some Date.last ∧
    {e ∈ Date.monthWeekdays Civil.lastYear 12 .mon | e < Date.last}.ncard = 4 ∧
    nthWeekdayOfMonth? Civil.lastYear 11 .fri (-1) = Date.last.addDays? (-31) ∧
    ¬ ∃ d, nthWeekdayOfMonth? Civil.lastYear 12 .mon (-1) = some d := by
  have low : Civil.firstYear ≤ Civil.lastYear := by decide
  have fifth : nthWeekdayOfMonth? Civil.lastYear 12 .mon 5 = some Date.last := by decide
  obtain ⟨finds, last, -⟩ := nthWeekdayOfMonth?_iff low (Int.le_refl _) 12 .mon 5
  rcases ((finds Date.last).mp fifth).2 with ⟨-, before⟩ | ⟨other, -⟩
  · exact ⟨low, fifth, by omega, by decide, fun found =>
      (last (by decide) (by decide)).mp found ⟨rfl, rfl⟩⟩
  · cases other

/-- December of the last year has a last Monday, and the search for it finds none. -/
theorem nthWeekdayOfMonth?_lastDecember :
    ¬ ∀ (year : Int) (month : Nat) (weekday : Weekday) (nth : Int) (d : Date),
      Civil.firstYear ≤ year → year ≤ Civil.lastYear →
      (nthWeekdayOfMonth? year month weekday nth = some d ↔
        d ∈ Date.monthWeekdays year month weekday ∧
          (1 ≤ nth ∧
              ({e ∈ Date.monthWeekdays year month weekday | e < d}.ncard : Int) = nth - 1 ∨
            nth = -1 ∧ ∀ e ∈ Date.monthWeekdays year month weekday, e ≤ d)) := by
  intro claimed
  have listed : Date.last ∈ Date.monthWeekdays Civil.lastYear 12 .mon :=
    ⟨by decide, by decide, by decide⟩
  have found := (claimed Civil.lastYear 12 .mon (-1) Date.last (by decide) (Int.le_refl _)).mpr
    ⟨listed, .inr ⟨rfl, fun e _ => e.number_bounds.2⟩⟩
  have none : nthWeekdayOfMonth? Civil.lastYear 12 .mon (-1) = none := by decide
  rw [none] at found
  cases found

end Holidays
