import Holidays.Chronology.Words
import Holidays.Proofs.Chronology.RoundTrip

/-!
Conversion in words of the systems that have closed formulas. The guards of the Julian system leave
one value out: at 35 pivots by their lower limit, the whole years turned back into quarters of days
are too low for a word. All other values fit, those of the Islamic system without exception, and
what comes out is what exact conversion gives.
-/
namespace Holidays

section

variable {α : Type} {n m : Int}

@[simp] theorem inWords_ok (a : α) : inWords (.ok a : Except ChronologyError α) = .ok a := rfl

@[simp] theorem inWords_error (e : ChronologyError) :
    inWords (.error e : Except ChronologyError α) = .error (.refused e) := rfl

theorem inWords_eq_ok_iff {x : Except ChronologyError α} {a : α} :
    inWords x = .ok a ↔ x = .ok a := by
  cases x <;> simp

theorem natural32?_of_le (low : 0 ≤ n) (high : n ≤ 4294967295) : natural32? n = some n.toNat :=
  if_pos ⟨low, high⟩

namespace WordArithmetic

/-- A result that no word holds leaves the word that it is congruent to. -/
def wrapping : WordArithmetic where
  keep n := .ok (Int64.ofInt n).toInt
  exact _ fits := congrArg _ (Int64.toInt_ofInt_of_le fits.1 (Int.lt_add_one_of_le fits.2))

theorem keep_of_le (a : WordArithmetic) (low : -9223372036854775808 ≤ n)
    (high : n ≤ 9223372036854775807) : a.keep n = .ok n := a.exact n ⟨low, high⟩

theorem checked_keep_eq_ok_iff : checked.keep n = .ok m ↔ Fits64 n ∧ n = m := by
  simp only [checked]
  split <;> simp_all

theorem checked_keep_of_lt (low : n < -9223372036854775808) :
    checked.keep n = .error (.overflow n) := if_neg fun fits => by
  have := fits.1
  omega

theorem wrapping_keep_of_lt (low : -27670116110564327424 ≤ n)
    (below : n < -9223372036854775808) : wrapping.keep n = .ok (n + 18446744073709551616) := by
  have wrapped : (Int64.ofInt n).toInt = n + 18446744073709551616 := by
    rw [Int64.toInt_ofInt, Int.bmod_def, Int64.size]
    split <;> omega
  exact congrArg Except.ok wrapped

end WordArithmetic

end

theorem MonthTable.locateIn_eq {a : WordArithmetic} {error : ChronologyError} {pivot start : Int}
    {lengths : List Nat} (begun : start ≤ pivot) (low : -9223372036854775808 ≤ start)
    (narrow : ∀ length ∈ lengths, length ≤ 4294967295)
    (high : start + total lengths ≤ 9223372036854775807) :
    locateIn a error pivot start lengths =
      orRefuse error (locate lengths (pivot - start).toNat) := by
  induction lengths generalizing start with
  | nil => rfl
  | cons length rest ih =>
    rw [total_cons] at high
    push_cast at high
    have short := narrow length List.mem_cons_self
    rw [locateIn, a.keep_of_le (by omega) (by omega)]
    simp only [locate]
    by_cases inside : pivot < start + length
    · have within : (pivot - start).toNat < length := by omega
      have day : (pivot - start + 1).toNat = (pivot - start).toNat + 1 := by omega
      simp (disch := omega) only [if_pos inside, if_pos within, a.keep_of_le, natural32?_of_le,
        orRefuse, bind, Except.bind, day]
      rfl
    · have past : ¬ (pivot - start).toNat < length := by omega
      have left : (pivot - start).toNat - length = (pivot - (start + length)).toNat := by omega
      have narrow' : ∀ l ∈ rest, l ≤ 4294967295 := fun l held =>
        narrow l (List.mem_cons_of_mem _ held)
      have onward := @ih (start + length) (by omega) (by omega) narrow' (by omega)
      simp only [bind, Except.bind, if_neg inside, if_neg past, onward, left]
      cases locate rest (pivot - (start + length)).toNat <;> rfl

theorem Date.pivot_bounds (d : Date) : -94024704 ≤ d.pivot ∧ d.pivot ≤ 97466824 := by
  obtain ⟨low, high⟩ := d.number_bounds
  have first : Date.first.number = -95746129 := by decide
  have last : Date.last.number = 95745399 := by decide
  simp only [Date.pivot, civilPivot]
  omega

namespace Civil

theorem pivotOfIn_eq (a : WordArithmetic) (d : Date) : pivotOfIn a d = .ok d.pivot := by
  obtain ⟨low, high⟩ := d.pivot_bounds
  simp only [Date.pivot] at low high
  exact a.keep_of_le (by omega) (by omega)

theorem ofPivotIn_eq (pivot : Int) :
    ofPivotIn pivot = inWords (CalendarSystem.gregorian.ofPivot pivot) := by
  have exact : CalendarSystem.gregorian.ofPivot pivot =
      SystemDate.signed CalendarSystem.civilId pivot ((Date.ofPivot? pivot).map Date.ymd) := rfl
  rw [exact, Date.ofPivot?]
  cases named : Date.ofNumber? (pivot - civilPivot) with
  | none =>
    by_cases fits : Fits64 (pivot - civilPivot) <;>
      by_cases narrow : Fits32 (pivot - civilPivot) <;>
      simp [ofPivotIn, fit64?, fit32?, fits, narrow, named, orRefuse, SystemDate.signed, bind,
        Except.bind]
  | some d =>
    -- A day that has a date passes both guards.
    have placed := Date.ofNumber?_eq_some_iff.mp named
    obtain ⟨low, high⟩ := d.pivot_bounds
    have counted : Fits64 (pivot - civilPivot) ∧ Fits32 (pivot - civilPivot) := by
      rw [← placed]
      simp only [Fits64, Fits32, Date.pivot, civilPivot] at *
      omega
    simp [ofPivotIn, fit64?, fit32?, counted, named, orRefuse, SystemDate.signed,
      SystemDate.civil, bind, Except.bind, pure, Except.pure]

end Civil

namespace Julian

/-- The pivots that pass the guards and have years too low to be multiplied back. -/
def Overflows (pivot : Int) : Prop :=
  -2305843009213726034 ≤ pivot ∧ pivot ≤ -2305843009213726000

instance (pivot : Int) : Decidable (Overflows pivot) := inferInstanceAs (Decidable (_ ∧ _))

structure Steps.Fits (s : Steps) : Prop where
  quarterDays : Fits64 s.quarterDays
  years : Fits64 s.years
  dayOfYear : Fits64 s.dayOfYear
  fiveDays : Fits64 (5 * s.dayOfYear + 2)
  months : Fits64 s.months
  monthDays : Fits64 (153 * s.months + 2)
  year : Fits64 s.year
  month : Fits64 s.month
  day : Fits64 s.day

variable {a : WordArithmetic} {pivot days dayOfYear : Int} {date : Ymd}

theorem pivotOfIn_eq (counted : Fits32 date.year) (has : CalendarSystem.julian.HasDay date) :
    pivotOfIn a date = .ok (pivotOf date) := by
  obtain ⟨⟨first, last⟩, -, short⟩ := hasDay_iff.mp has
  have day : date.day ≤ 31 := by
    simp only [lastDay] at short
    split at short <;> split at short <;> omega
  obtain ⟨low, high⟩ := counted
  simp (disch := omega) only [pivotOfIn, marchBasedIn, a.keep_of_le, bind, Except.bind, pure,
    Except.pure]
  rfl

theorem checked_pivotOfIn (ran : pivotOfIn .checked date = .ok pivot) : pivot = pivotOf date := by
  simp only [pivotOfIn, marchBasedIn, bind_eq_ok_iff, pure_eq_ok_iff,
    WordArithmetic.checked_keep_eq_ok_iff] at ran
  obtain ⟨_, ⟨_, ⟨-, rfl⟩, _, ⟨-, rfl⟩, _, ⟨-, rfl⟩, _, ⟨-, rfl⟩, _, ⟨-, rfl⟩, rfl⟩, _, ⟨-, rfl⟩,
    _, ⟨-, rfl⟩, _, ⟨-, rfl⟩, _, ⟨-, rfl⟩, _, ⟨-, rfl⟩, _, ⟨-, rfl⟩, -, rfl⟩ := ran
  rfl

theorem days?_eq_some_iff :
    days? pivot = some days ↔ days = pivot + 32082 ∧ Fits64 days ∧ Fits64 (4 * days) ∧
      Fits64 (4 * days + 3) := by
  simp only [days?, Option.bind_eq_bind, Option.bind_eq_some_iff, Option.pure_def,
    fit64?_eq_some_iff]
  constructor
  · rintro ⟨_, ⟨fits, rfl⟩, _, ⟨quarters, rfl⟩, _, ⟨guarded, -⟩, same⟩
    cases same
    exact ⟨rfl, fits, quarters, guarded⟩
  · rintro ⟨rfl, fits, quarters, guarded⟩
    exact ⟨_, ⟨fits, rfl⟩, _, ⟨quarters, rfl⟩, _, ⟨guarded, rfl⟩, rfl⟩

theorem steps_fits (guarded : days? pivot = some days) : (steps days).Fits := by
  obtain ⟨-, low, high, guarded⟩ := days?_eq_some_iff.mp guarded
  obtain ⟨first, last, total⟩ := steps_dayOfYear days
  simp only [steps] at first last total
  constructor <;> simp only [steps, Fits64] at * <;> omega

theorem dayInMonthIn_of_fiveDays {fiveDays : Int} (kept : a.keep (5 * dayOfYear) = .ok fiveDays)
    (low : -4611686018427387904 ≤ dayOfYear) (high : dayOfYear ≤ 365)
    (low' : -4611686018427387904 ≤ fiveDays) (high' : fiveDays ≤ 1825) :
    dayInMonthIn a dayOfYear = .ok ((fiveDays + 2) / 153,
      (fiveDays + 2) / 153 + 3 - 12 * ((fiveDays + 2) / 153 / 10),
      dayOfYear - (153 * ((fiveDays + 2) / 153) + 2) / 5 + 1) := by
  simp (disch := omega) only [dayInMonthIn, kept, a.keep_of_le, bind, Except.bind, pure,
    Except.pure]

theorem dayInMonthIn_eq (low : 0 ≤ dayOfYear) (high : dayOfYear ≤ 365) :
    dayInMonthIn a dayOfYear = .ok ((5 * dayOfYear + 2) / 153,
      (5 * dayOfYear + 2) / 153 + 3 - 12 * ((5 * dayOfYear + 2) / 153 / 10),
      dayOfYear - (153 * ((5 * dayOfYear + 2) / 153) + 2) / 5 + 1) :=
  dayInMonthIn_of_fiveDays (a.keep_of_le (by omega) (by omega)) (by omega) high (by omega)
    (by omega)

theorem fits_wholeYears_iff (guarded : days? pivot = some days) :
    Fits64 (1461 * (steps days).years) ↔ ¬ Overflows pivot := by
  obtain ⟨rfl, -, -, guarded⟩ := days?_eq_some_iff.mp guarded
  simp only [Fits64, Overflows, steps] at guarded ⊢
  omega

theorem ofPivotIn_eq (fine : ¬ Overflows pivot) :
    ofPivotIn a pivot = inWords (CalendarSystem.julian.ofPivot pivot) := by
  simp only [CalendarSystem.ofPivot]
  cases guarded : days? pivot with
  | none => simp [ofPivotIn, ofPivot?, guarded, orRefuse, SystemDate.signed, bind, Except.bind]
  | some days =>
    have wholeYears := (fits_wholeYears_iff guarded).mpr fine
    obtain ⟨-, fits, -, -⟩ := days?_eq_some_iff.mp guarded
    obtain ⟨low, high, -⟩ := steps_dayOfYear days
    simp only [steps, Fits64] at wholeYears low high fits
    simp (disch := omega) only [ofPivotIn, ofPivot?, guarded, orRefuse, steps, a.keep_of_le,
      dayInMonthIn_eq, natural32?_of_le, bind, Except.bind, pure, Except.pure, Option.bind]
    cases fit32? ((4 * days + 3) / 1461 - 4800 +
      (5 * (days - 1461 * ((4 * days + 3) / 1461) / 4) + 2) / 153 / 10) <;> rfl

theorem days?_of_overflows (h : Overflows pivot) :
    days? pivot = some (pivot + 32082) ∧ (4 * (pivot + 32082) + 3) / 1461 = -6313054097778766 := by
  obtain ⟨low, high⟩ := h
  rw [days?_eq_some_iff]
  simp only [Fits64]
  refine ⟨⟨trivial, ?_, ?_, ?_⟩, ?_⟩ <;> omega

theorem ofPivotIn_checked (h : Overflows pivot) :
    ofPivotIn .checked pivot = .error (.overflow (-9223372036854777126)) := by
  obtain ⟨guarded, years⟩ := days?_of_overflows h
  simp only [ofPivotIn, guarded, orRefuse, bind, Except.bind, years]
  rw [WordArithmetic.checked_keep_of_lt (by omega)]
  rfl

theorem wrapping_keep_wholeYears :
    WordArithmetic.wrapping.keep (1461 * -6313054097778766) = .ok 9223372036854774490 := by
  have product : (1461 * -6313054097778766 : Int) = -9223372036854777126 := by norm_num
  rw [product, WordArithmetic.wrapping_keep_of_lt (by omega) (by omega)]
  norm_num

/-- The product wrapped around puts the day far below its year, and five times that wraps again.
What comes of it is refused: no word of 32 bits holds the year. -/
theorem ofPivotIn_wrapping (h : Overflows pivot) :
    ofPivotIn .wrapping pivot =
      .error (.refused (.pivotOutOfRange CalendarSystem.julianId pivot)) := by
  obtain ⟨guarded, years⟩ := days?_of_overflows h
  obtain ⟨low, high⟩ := h
  have quarter : (9223372036854774490 / 4 : Int) = 2305843009213693622 := by norm_num
  obtain ⟨dayOfYear, named⟩ : ∃ d, d = pivot + 32082 - 2305843009213693622 := ⟨_, rfl⟩
  have fiveDays : WordArithmetic.wrapping.keep (5 * dayOfYear) =
    .ok (5 * dayOfYear + 18446744073709551616) :=
      WordArithmetic.wrapping_keep_of_lt (by omega) (by omega)
  have beyond : ¬ Fits32 (-6313054097778766 - 4800 +
      (5 * dayOfYear + 18446744073709551616 + 2) / 153 / 10) := by
    simp only [Fits32]
    omega
  rw [ofPivotIn, guarded]
  simp only [orRefuse, bind, Except.bind]
  rw [years, wrapping_keep_wholeYears]
  simp only [quarter, ← named]
  rw [WordArithmetic.keep_of_le _ (by omega) (by omega)]
  simp only [dayInMonthIn_of_fiveDays fiveDays (by omega) (by omega) (by omega) (by omega)]
  simp (disch := omega) only [WordArithmetic.keep_of_le, fit32?, if_neg beyond]

end Julian

namespace Islamic

variable {a : WordArithmetic} {error : ChronologyError} {pivot year : Int} {date : Ymd}

theorem yearStartIn_eq (counted : Fits32 year) : yearStartIn a year = .ok (yearStart year) := by
  obtain ⟨low, high⟩ := counted
  simp (disch := omega) only [yearStartIn, epoch, a.keep_of_le, bind, Except.bind]
  rfl

theorem pivotOfIn_eq (counted : Fits32 date.year) (has : CalendarSystem.islamic.HasDay date) :
    pivotOfIn a date = .ok (pivotOf date) := by
  obtain ⟨⟨first, last⟩, -, short⟩ := hasDay_iff.mp has
  have day : date.day ≤ 30 := by
    simp only [lastDay] at short
    split at short <;> omega
  have start := yearStartIn_eq (a := a) counted
  obtain ⟨low, high⟩ := counted
  have placed : -4611686018427387904 ≤ yearStart date.year ∧
      yearStart date.year ≤ 4611686018427387904 := by
    simp only [yearStart, epoch]
    omega
  simp (disch := omega) only [pivotOfIn, start, a.keep_of_le, bind, Except.bind]
  rfl

theorem checked_pivotOfIn (ran : pivotOfIn .checked date = .ok pivot) : pivot = pivotOf date := by
  simp only [pivotOfIn, yearStartIn, bind_eq_ok_iff, WordArithmetic.checked_keep_eq_ok_iff] at ran
  obtain ⟨_, ⟨-, rfl⟩, _, ⟨-, rfl⟩, _, ⟨_, ⟨-, rfl⟩, _, ⟨-, rfl⟩, _, ⟨-, rfl⟩, _, ⟨-, rfl⟩, _,
    ⟨-, rfl⟩, -, rfl⟩, _, ⟨-, rfl⟩, _, ⟨-, rfl⟩, -, rfl⟩ := ran
  rfl

theorem retreatIn_eq (counted : Fits32 year) :
    retreatIn a error pivot year = orRefuse error (retreat? pivot year) := by
  fun_induction retreat? pivot year with
  | case1 year begun => simp [retreatIn, yearStartIn_eq counted, begun, orRefuse]
  | case2 year late uncounted =>
    have first : ¬ Fits32 (year - 1) := by simpa [fit32?] using uncounted
    rw [retreatIn, yearStartIn_eq counted]
    simp [late, first, orRefuse]
  | case3 year late _ earlier ih =>
    have counted' := (fit32?_eq_some_iff.mp earlier).1
    rw [retreatIn, yearStartIn_eq counted]
    simp [late, counted', ih counted']

theorem advanceIn_eq : advanceIn a error pivot year = orRefuse error (advance? pivot year) := by
  fun_induction advance? pivot year with
  | case1 year uncounted =>
    have last : ¬ Fits32 (year + 1) := by simpa [fit32?] using uncounted
    rw [advanceIn, dif_neg last, orRefuse]
  | case2 year _ later before =>
    have counted := (fit32?_eq_some_iff.mp later).1
    rw [advanceIn, dif_pos counted, yearStartIn_eq counted]
    exact if_pos before
  | case3 year _ later past ih =>
    have counted := (fit32?_eq_some_iff.mp later).1
    rw [advanceIn, dif_pos counted, yearStartIn_eq counted]
    exact (if_neg past).trans ih

theorem locateIn_yearStart (counted : Fits32 year) (begun : yearStart year ≤ pivot) :
    MonthTable.locateIn a error pivot (yearStart year) (monthLengths year) =
      orRefuse error (MonthTable.locate (monthLengths year) (pivot - yearStart year).toNat) := by
  have next := yearStart_succ year
  have short : ∀ length ∈ monthLengths year, length ≤ 4294967295 := by
    intro length held
    simp only [monthLengths, List.mem_cons, List.not_mem_nil, or_false] at held
    split at held <;> omega
  simp only [yearStart, epoch, Fits32] at next counted
  refine MonthTable.locateIn_eq begun ?_ short ?_ <;> simp only [yearStart, epoch] <;> omega

theorem ofPivotIn_eq : ofPivotIn a pivot = inWords (CalendarSystem.islamic.ofPivot pivot) := by
  simp only [ofPivotIn, CalendarSystem.ofPivot, ofPivot?, Option.bind_eq_bind]
  cases guessed : estimate? pivot with
  | none => rfl
  | some guess =>
    have counted := estimate?_fits guessed
    simp only [orRefuse, bind, Except.bind, Option.bind, retreatIn_eq counted]
    cases retreated : retreat? pivot guess with
    | none => rfl
    | some begun =>
      simp only [orRefuse, advanceIn_eq]
      cases advanced : advance? pivot begun with
      | none => rfl
      | some year =>
        have counted' := advance?_fits (retreat?_fits counted retreated) advanced
        have reached := (advance?_spec (retreat?_spec retreated) advanced).1
        simp only [orRefuse, yearStartIn_eq counted', locateIn_yearStart counted' reached]
        cases MonthTable.locate (monthLengths year) (pivot - yearStart year).toNat <;> rfl

end Islamic

/-- Conversion in words gives what exact conversion gives, whatever becomes of results that no word
holds, but for 35 pivots of the Julian system. There checked arithmetic overflows, and wrapped
around the result happens to be refused. -/
theorem ofPivot_inWords (pivot : Int) :
    (∀ days, Julian.days? pivot = some days → (Julian.steps days).Fits ∧
      (Fits64 (1461 * (Julian.steps days).years) ↔ ¬ Julian.Overflows pivot)) ∧
    (∀ a, ¬ Julian.Overflows pivot →
      CalendarSystem.julian.ofPivotIn a pivot = inWords (CalendarSystem.julian.ofPivot pivot)) ∧
    (Julian.Overflows pivot →
      CalendarSystem.julian.ofPivotIn .checked pivot =
        .error (.overflow (-9223372036854777126)) ∧
      CalendarSystem.julian.ofPivotIn .wrapping pivot =
        .error (.refused (.pivotOutOfRange CalendarSystem.julianId pivot))) ∧
    (∀ a, (∀ year, Fits32 year → Islamic.yearStartIn a year = .ok (Islamic.yearStart year)) ∧
      CalendarSystem.islamic.ofPivotIn a pivot =
        inWords (CalendarSystem.islamic.ofPivot pivot)) := by
  refine ⟨?_, ?_, ?_, ?_⟩
  · intro days guarded
    exact ⟨Julian.steps_fits guarded, Julian.fits_wholeYears_iff guarded⟩
  · intro a fine
    exact Julian.ofPivotIn_eq fine
  · intro h
    exact ⟨Julian.ofPivotIn_checked h, Julian.ofPivotIn_wrapping h⟩
  · intro a
    exact ⟨fun year => Islamic.yearStartIn_eq, Islamic.ofPivotIn_eq⟩

theorem ofPivot_inWords_edge :
    CalendarSystem.julian.ofPivotIn .checked (-2305843009213726000) =
      .error (.overflow (-9223372036854777126)) ∧
    (∀ a, CalendarSystem.julian.ofPivotIn a (-2305843009213725999) =
      .error (.refused (.pivotOutOfRange "julian" (-2305843009213725999)))) ∧
    ∀ a, CalendarSystem.julian.ofPivotIn a 2451545 = .ok ⟨"julian", ⟨1999, 12, 19⟩⟩ ∧
      CalendarSystem.islamic.ofPivotIn a 2451545 = .ok ⟨"islamic", ⟨1420, 9, 24⟩⟩ := by
  obtain ⟨-, -, overflows, -⟩ := ofPivot_inWords (-2305843009213726000)
  obtain ⟨-, exact, -, -⟩ := ofPivot_inWords (-2305843009213725999)
  obtain ⟨-, exact', -, islamic⟩ := ofPivot_inWords 2451545
  have beyond : CalendarSystem.julian.ofPivot (-2305843009213725999) =
    .error (.pivotOutOfRange "julian" (-2305843009213725999)) := by decide
  have julian : CalendarSystem.julian.ofPivot 2451545 = .ok ⟨"julian", ⟨1999, 12, 19⟩⟩ := by decide
  have found : CalendarSystem.islamic.ofPivot 2451545 = .ok ⟨"islamic", ⟨1420, 9, 24⟩⟩ := by
    decide +kernel
  refine ⟨(overflows (by decide)).1, fun a => ?_, fun a => ⟨?_, ?_⟩⟩
  · rw [exact a (by decide), beyond, inWords_error]
  · rw [exact' a (by decide), julian, inWords_ok]
  · rw [(islamic a).2, found, inWords_ok]

/-- A pivot that the guards let through, though its whole years turned back into quarters of days
fit no word: conversion overflows there and refuses nothing. -/
theorem wholeYears_overflow :
    Julian.days? (-2305843009213726034) = some (-2305843009213693952) ∧
    ¬ Fits64 (1461 * (Julian.steps (-2305843009213693952)).years) ∧
    CalendarSystem.julian.ofPivotIn .checked (-2305843009213726034) =
      .error (.overflow (-9223372036854777126)) :=
  ⟨by decide, by decide, Julian.ofPivotIn_checked (by decide)⟩

end Holidays
