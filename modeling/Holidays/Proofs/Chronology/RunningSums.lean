import Holidays.Proofs.Chronology.WordArithmetic

/-!
Calendars built from definitions, in words. Nothing guards their running sums: the lengths of
months and of years, the start of a year, and the days passed in it. Each sum only grows, or only
falls, so it overflows just where its last value fits no word. Conversion from a pivot sums past the
day it finds, so the day that comes out can be converted back.
-/
namespace Holidays

namespace WordArithmetic

section

variable {β : Type} {op : Int → Int → Int} {term : β → Except Stop Int} {length : β → Nat}
  {xs : List β} {start n : Int}

def OneWay (op : Int → Int → Int) : Prop := op = (· + ·) ∨ op = (· - ·)

theorem OneWay.zero (way : OneWay op) (start : Int) : op start 0 = start := by
  rcases way with rfl | rfl <;> simp

theorem OneWay.assoc (way : OneWay op) (start : Int) (first rest : Nat) :
    op (op start first) rest = op start (first + rest : Nat) := by
  rcases way with rfl | rfl <;> push_cast <;> omega

theorem OneWay.between (way : OneWay op) {first rest : Nat} (begun : Fits64 start)
    (ended : Fits64 (op start (first + rest : Nat))) : Fits64 (op start first) := by
  rcases way with rfl | rfl <;> simp only [Fits64] at * <;> omega

theorem layOut_eq (a : WordArithmetic) (way : OneWay op)
    (terms : ∀ x ∈ xs, term x = .ok (length x : Int)) (begun : Fits64 start)
    (ended : Fits64 (op start (MonthTable.total (xs.map length)))) :
    a.layOut op term start xs = .ok (op start (MonthTable.total (xs.map length))) := by
  induction xs generalizing start with
  | nil => simp [layOut, way.zero]
  | cons x xs ih =>
    simp only [List.forall_mem_cons, List.map_cons, MonthTable.total_cons] at terms ended ⊢
    have between := way.between begun ended
    rw [← way.assoc] at ended ⊢
    simp only [layOut, terms.1, a.exact _ between, bind, Except.bind]
    exact ih terms.2 between ended

theorem checked_layOut {Fine : β → Prop} (way : OneWay op)
    (terms : ∀ x ∈ xs, ∀ n, term x = .ok n → Fine x ∧ n = length x) (begun : Fits64 start)
    (ran : checked.layOut op term start xs = .ok n) :
    (∀ x ∈ xs, Fine x) ∧ Fits64 n ∧ n = op start (MonthTable.total (xs.map length)) := by
  induction xs generalizing start with
  | nil =>
    cases ran
    simpa [way.zero] using begun
  | cons x xs ih =>
    simp only [List.forall_mem_cons] at terms ⊢
    simp only [layOut, bind_eq_ok_iff, checked_keep_eq_ok_iff] at ran
    obtain ⟨_, termed, _, ⟨fits, rfl⟩, rest⟩ := ran
    obtain ⟨fine, rfl⟩ := terms.1 _ termed
    obtain ⟨fines, ended, same⟩ := ih terms.2 fits rest
    refine ⟨⟨fine, fines⟩, ended, ?_⟩
    rw [same, List.map_cons, MonthTable.total_cons, way.assoc]

end

/-- Something comes out, or a value does not fit. -/
def Unguarded {α : Type} (x : Except Stop α) : Prop :=
  ∀ stop, x = .error stop → ∃ value, ¬ Fits64 value ∧ stop = .overflow value

theorem unguarded_ok {α : Type} (a : α) : Unguarded (.ok a : Except Stop α) := by
  intro stop failed
  cases failed

theorem unguarded_keep (n : Int) : Unguarded (checked.keep n) := by
  intro stop failed
  simp only [checked] at failed
  split at failed
  · cases failed
  · next beyond =>
    cases failed
    exact ⟨n, beyond, rfl⟩

theorem Unguarded.bind {α β : Type} {x : Except Stop α} {f : α → Except Stop β}
    (first : Unguarded x) (rest : ∀ a, Unguarded (f a)) : Unguarded (x >>= f) := by
  intro stop failed
  rcases bind_eq_error_iff.mp failed with here | ⟨a, -, later⟩
  · exact first stop here
  · exact rest a stop later

theorem unguarded_layOut {β : Type} {op : Int → Int → Int} {term : β → Except Stop Int}
    (terms : ∀ x, Unguarded (term x)) (xs : List β) (start : Int) :
    Unguarded (checked.layOut op term start xs) := by
  induction xs generalizing start with
  | nil => exact unguarded_ok start
  | cons x xs ih => exact (terms x).bind fun n => (unguarded_keep (op start n)).bind ih

end WordArithmetic

open WordArithmetic (Unguarded unguarded_ok unguarded_keep unguarded_layOut checked_layOut
  checked_keep_eq_ok_iff)

namespace TableCalendar

section

variable {a : WordArithmetic} {c : TableCalendar} {lengths : List Nat} {year n : Int} {date : Ymd}

theorem daysIn_eq (fits : Fits64 (MonthTable.total lengths)) :
    daysIn a lengths = .ok (MonthTable.total lengths : Int) := by
  have laid : daysIn a lengths = .ok (0 + (MonthTable.total (lengths.map fun n => n) : Int)) :=
    a.layOut_eq (.inl rfl) (fun _ _ => rfl) (by decide) (by simpa using fits)
  simpa using laid

theorem checked_daysIn (ran : daysIn .checked lengths = .ok n) :
    Fits64 (MonthTable.total lengths) ∧ n = MonthTable.total lengths := by
  have exact : ∀ length ∈ lengths, ∀ n, (.ok (length : Int) : Except Stop Int) = .ok n →
      True ∧ n = length := fun _ _ _ same => ⟨trivial, (Except.ok.inj same).symm⟩
  have laid := checked_layOut (.inl rfl) exact (by decide) ran
  simp only [List.map_id', Int.zero_add] at laid
  exact ⟨laid.2.2 ▸ laid.2.1, laid.2.2⟩

theorem checked_yearLengthIn (ran : c.yearLengthIn .checked year = .ok n) :
    Fits64 (c.yearLength year) ∧ n = c.yearLength year := checked_daysIn ran

theorem unguarded_daysIn (lengths : List Nat) : Unguarded (daysIn .checked lengths) :=
  unguarded_layOut (fun _ => unguarded_ok _) lengths 0

/-- The years laid out between the epoch and the start of a year. -/
def yearsBetween (year : Int) : List Int := if 1 ≤ year then span 1 (year - 1) else span year 0

theorem yearStartIn_eq (lengths : ∀ y ∈ yearsBetween year, Fits64 (c.yearLength y))
    (start : Fits64 (c.yearStart year)) : c.yearStartIn a year = .ok (c.yearStart year) := by
  simp only [yearStart, yearsBetween, yearStartIn] at *
  split at start
  · next later =>
    rw [if_pos later] at lengths
    rw [if_pos later, if_pos later]
    exact a.layOut_eq (.inl rfl) (fun y held => daysIn_eq (lengths y held)) c.epoch_fits start
  · next earlier =>
    rw [if_neg earlier] at lengths
    rw [if_neg earlier, if_neg earlier]
    exact a.layOut_eq (.inr rfl) (fun y held => daysIn_eq (lengths y held)) c.epoch_fits start

theorem checked_yearStartIn (ran : c.yearStartIn .checked year = .ok n) :
    (∀ y ∈ yearsBetween year, Fits64 (c.yearLength y)) ∧ Fits64 (c.yearStart year) ∧
      n = c.yearStart year := by
  have computed (ys : List Int) : ∀ y ∈ ys, ∀ n, c.yearLengthIn .checked y = .ok n →
      Fits64 (c.yearLength y) ∧ n = c.yearLength y := fun _ _ _ => checked_daysIn
  simp only [yearStart, yearsBetween, yearStartIn] at *
  split at ran
  · next later =>
    obtain ⟨lengths, fits, rfl⟩ := checked_layOut (.inl rfl) (computed _) c.epoch_fits ran
    rw [if_pos later, if_pos later]
    exact ⟨lengths, fits, rfl⟩
  · next earlier =>
    obtain ⟨lengths, fits, rfl⟩ := checked_layOut (.inr rfl) (computed _) c.epoch_fits ran
    rw [if_neg earlier, if_neg earlier]
    exact ⟨lengths, fits, rfl⟩

theorem unguarded_yearStartIn (c : TableCalendar) (year : Int) :
    Unguarded (c.yearStartIn .checked year) := by
  unfold yearStartIn
  split <;> exact unguarded_layOut (fun y => unguarded_daysIn _) _ _

structure SumsFit (c : TableCalendar) (date : Ymd) : Prop where
  lengths : ∀ year ∈ yearsBetween date.year, Fits64 (c.yearLength year)
  start : Fits64 (c.yearStart date.year)
  preceding : Fits64 (MonthTable.daysBefore (c.monthLengths date.year) date.month)
  passed : Fits64 (c.yearStart date.year +
    MonthTable.daysBefore (c.monthLengths date.year) date.month + date.day)

theorem pivotOfIn_eq (first : 1 ≤ date.day) (fit : c.SumsFit date) :
    c.pivotOfIn a date = .ok (c.pivotOf date) := by
  obtain ⟨lengths, start, preceding, passed⟩ := fit
  have counted : daysIn a ((c.monthLengths date.year).take (date.month - 1)) =
      .ok (MonthTable.daysBefore (c.monthLengths date.year) date.month : Int) := daysIn_eq preceding
  simp only [Fits64] at start passed
  simp (disch := omega) only [pivotOfIn, counted, yearStartIn_eq lengths start, a.keep_of_le, bind,
    Except.bind]
  rfl

theorem checked_pivotOfIn {pivot : Int} (ran : c.pivotOfIn .checked date = .ok pivot) :
    c.SumsFit date ∧ pivot = c.pivotOf date := by
  simp only [pivotOfIn, bind_eq_ok_iff, checked_keep_eq_ok_iff] at ran
  obtain ⟨before, counted, start, laid, _, ⟨-, rfl⟩, _, ⟨passed, rfl⟩, -, rfl⟩ := ran
  obtain ⟨preceding, rfl⟩ := checked_daysIn counted
  obtain ⟨lengths, start, rfl⟩ := checked_yearStartIn laid
  exact ⟨⟨lengths, start, preceding, passed⟩, rfl⟩

theorem unguarded_pivotOfIn (c : TableCalendar) (date : Ymd) :
    Unguarded (c.pivotOfIn .checked date) := by
  apply (unguarded_daysIn _).bind
  intro preceding
  apply (c.unguarded_yearStartIn _).bind
  intro start
  apply (unguarded_keep _).bind
  intro placed
  apply (unguarded_keep _).bind
  intro passed
  exact unguarded_keep _

theorem overflow_of_not_sumsFit (unfit : ¬ c.SumsFit date) :
    ∃ value, ¬ Fits64 value ∧ c.pivotOfIn .checked date = .error (.overflow value) := by
  cases ran : c.pivotOfIn .checked date with
  | ok pivot => exact absurd (checked_pivotOfIn ran).1 unfit
  | error stop =>
    obtain ⟨value, beyond, rfl⟩ := c.unguarded_pivotOfIn date stop ran
    exact ⟨value, beyond, rfl⟩

end

section

variable {c : TableCalendar} {pivot year start found foundStart : Int}

theorem checked_next {f : Int → Int} {next : Int}
    (ran : (c.yearLengthIn .checked year >>= fun n => WordArithmetic.checked.keep (f n)) =
      .ok next) :
    Fits64 (c.yearLength year) ∧ Fits64 next ∧ next = f (c.yearLength year) := by
  obtain ⟨_, computed, kept⟩ := bind_eq_ok_iff.mp ran
  obtain ⟨fits, rfl⟩ := checked_yearLengthIn computed
  obtain ⟨ended, rfl⟩ := checked_keep_eq_ok_iff.mp kept
  exact ⟨fits, ended, rfl⟩

/-- The walk on computes the year after the one that it finds. -/
theorem checked_forwardIn (begun : Fits64 start)
    (ran : c.forwardIn .checked pivot year start = .ok (found, foundStart)) :
    c.forward? pivot year start = some (found, foundStart) ∧ year ≤ found ∧
      (∀ y, year ≤ y → y ≤ found → Fits64 (c.yearLength y)) ∧
      Fits64 (foundStart + c.yearLength found) := by
  fun_induction TableCalendar.forwardIn WordArithmetic.checked c pivot year start with
  | case1 => cases ran
  | case2 year start next summed inside =>
    cases ran
    obtain ⟨fits, ended, rfl⟩ := checked_next summed
    rw [forward?, if_pos inside]
    refine ⟨rfl, Int.le_refl _, ?_, ended⟩
    intro y low high
    exact Int.le_antisymm high low ▸ fits
  | case3 year start next summed past later ih =>
    obtain ⟨fits, ended, rfl⟩ := checked_next summed
    obtain ⟨walked, onward, lengths, reached⟩ := ih ended ran
    rw [forward?, if_neg past, fit32?_eq_some_iff.mpr ⟨later, rfl⟩]
    refine ⟨walked, by omega, ?_, reached⟩
    intro y low high
    rcases Int.lt_or_eq_of_le low with after | rfl
    · exact lengths y after high
    · exact fits
  | case4 => cases ran

/-- The walk back computes no year before the one that it finds. -/
theorem checked_backIn (begun : Fits64 start)
    (ran : c.backIn .checked pivot year start = .ok (found, foundStart)) :
    c.back? pivot year start = some (found, foundStart) ∧
      (∀ y, found ≤ y → y < year → Fits64 (c.yearLength y)) ∧ Fits64 foundStart := by
  fun_induction TableCalendar.backIn WordArithmetic.checked c pivot year start with
  | case1 year start reached =>
    cases ran
    rw [back?, if_pos reached]
    refine ⟨rfl, ?_, begun⟩
    intro y low high
    omega
  | case2 => cases ran
  | case3 year start late earlier next summed ih =>
    obtain ⟨fits, ended, rfl⟩ := checked_next summed
    obtain ⟨walked, lengths, reached⟩ := ih ended ran
    rw [back?, if_neg late, fit32?_eq_some_iff.mpr ⟨earlier, rfl⟩]
    refine ⟨walked, ?_, reached⟩
    intro y low high
    by_cases before : y < year - 1
    · exact lengths y low before
    · have same : y = year - 1 := by omega
      exact same ▸ fits
  | case4 => cases ran

theorem length_le_of_mem {length : Nat} (held : length ∈ c.monthLengths year) :
    length ≤ 4294967295 := by
  obtain ⟨m, -, rfl⟩ := List.mem_map.mp held
  exact Nat.le_of_lt_succ (UInt32.toNat_lt _)

theorem locateIn_eq {a : WordArithmetic} {error : ChronologyError}
    (begun : c.yearStart year ≤ pivot) (low : -9223372036854775808 ≤ c.yearStart year)
    (high : c.yearStart year + c.yearLength year ≤ 9223372036854775807) :
    MonthTable.locateIn a error pivot (c.yearStart year) (c.monthLengths year) =
      orRefuse error (MonthTable.locate (c.monthLengths year) (pivot - c.yearStart year).toNat) :=
  MonthTable.locateIn_eq begun low (fun _ => length_le_of_mem) high

/-- All that the walk computes up to the year that it finds, and the end of that year. -/
structure Walked (c : TableCalendar) (year : Int) : Prop where
  lengths : ∀ y ∈ yearsBetween year, Fits64 (c.yearLength y)
  length : Fits64 (c.yearLength year)
  start : Fits64 (c.yearStart year)
  ended : Fits64 (c.yearStart year + c.yearLength year)

theorem checked_yearOfIn (ran : c.yearOfIn .checked pivot = .ok (year, start)) :
    c.yearOf? pivot = some (year, start) ∧ c.Walked year := by
  obtain ⟨lowest, highest⟩ := c.epoch_fits
  have one := c.yearStart_one
  unfold yearOfIn at ran
  split at ran
  · next late =>
    obtain ⟨walked, later, lengths, ended⟩ := checked_forwardIn c.epoch_fits ran
    have found : c.yearOf? pivot = some (year, start) := by rw [yearOf?, if_pos late, walked]
    obtain ⟨rfl, -, -⟩ := yearOf?_spec found
    have above := c.yearStart_gap later
    have length := lengths year later (Int.le_refl year)
    refine ⟨found, ?_, length, ?_, ended⟩
    · intro y held
      rw [yearsBetween, if_pos later, mem_span] at held
      exact lengths y held.1 (by omega)
    · simp only [Fits64] at *
      omega
  · next early =>
    obtain ⟨walked, lengths, begun⟩ := checked_backIn c.epoch_fits ran
    have found : c.yearOf? pivot = some (year, start) := by rw [yearOf?, if_neg early, walked]
    obtain ⟨rfl, reached, -⟩ := yearOf?_spec found
    have earlier : ¬ 1 ≤ year := by
      intro later
      have := c.yearStart_gap later
      omega
    have length := lengths year (Int.le_refl year) (by omega)
    have next : c.yearStart (year + 1) = c.yearStart year + c.yearLength year :=
      c.yearStart_succ year
    have below := c.yearStart_gap (show year + 1 ≤ 1 by omega)
    refine ⟨found, ?_, length, begun, ?_⟩
    · intro y held
      rw [yearsBetween, if_neg earlier, mem_span] at held
      exact lengths y held.1 (by omega)
    · simp only [Fits64] at *
      omega

theorem Walked.sumsFit {date : Ymd} (walked : c.Walked date.year)
    (has : (CalendarSystem.table c).HasDay date) : c.SumsFit date := by
  obtain ⟨lengths, length, start, ended⟩ := walked
  have within := MonthTable.daysBefore_add_le_total has
  have year : c.yearLength date.year =
    MonthTable.total ((CalendarSystem.table c).monthLengths date.year) := rfl
  have months : (CalendarSystem.table c).monthLengths date.year = c.monthLengths date.year := rfl
  rw [months] at within year
  refine ⟨lengths, start, ?_, ?_⟩ <;> simp only [Fits64] at * <;> omega

theorem checked_ofPivotIn {d : SystemDate} (ran : c.ofPivotIn .checked pivot = .ok d) :
    d.system = c.id ∧ c.ofPivot? pivot = some d.ymd ∧ c.SumsFit d.ymd := by
  simp only [ofPivotIn, bind_eq_ok_iff, pure_eq_ok_iff, Prod.exists] at ran
  obtain ⟨year, start, walk, month, day, located, rfl⟩ := ran
  obtain ⟨found, walked⟩ := checked_yearOfIn walk
  obtain ⟨rfl, begun, -⟩ := yearOf?_spec found
  rw [locateIn_eq begun walked.start.1 walked.ended.2] at located
  have named : c.ofPivot? pivot = some ⟨year, month, day⟩ := by
    simp only [ofPivot?, found, Option.bind_eq_bind, Option.bind_some]
    cases inYear : MonthTable.locate (c.monthLengths year) (pivot - c.yearStart year).toNat with
    | none =>
      rw [inYear] at located
      cases located
    | some monthDay =>
      rw [inYear] at located
      cases located
      rfl
  have has := (ofPivot?_eq_some_iff.mp named).2.1
  exact ⟨rfl, named, walked.sumsFit has⟩

structure Roomy (c : TableCalendar) (pivot : Int) : Prop where
  length : ∀ year, Fits64 (c.yearLength year)
  above : ∀ year, pivot + c.yearLength year ≤ 9223372036854775807
  below : ∀ year, -9223372036854775808 ≤ pivot - c.yearLength year

variable {a : WordArithmetic}

theorem Roomy.yearIn (room : c.Roomy pivot) (year : Int) :
    c.yearLengthIn a year = .ok (c.yearLength year : Int) := daysIn_eq (room.length year)

theorem forwardIn_eq (room : c.Roomy pivot) (lowest : -9223372036854775808 ≤ start)
    (begun : start ≤ pivot) :
    c.forwardIn a pivot year start =
      orRefuse (c.outOfRange pivot) (c.forward? pivot year start) := by
  have summed (year start : Int) (lowest : -9223372036854775808 ≤ start) (begun : start ≤ pivot) :
      (c.yearLengthIn a year >>= fun n => a.keep (start + n)) =
        .ok (start + c.yearLength year) := by
    have above := room.above year
    simp only [room.yearIn, bind, Except.bind]
    exact a.keep_of_le (by omega) (by omega)
  fun_induction forward? c pivot year start with
  | case1 year start inside =>
    rw [forwardIn, summed year start lowest begun]
    exact if_pos inside
  | case2 year start past last =>
    have uncounted : ¬ Fits32 (year + 1) := by simpa [fit32?] using last
    rw [forwardIn, summed year start lowest begun]
    exact (if_neg past).trans (dif_neg uncounted)
  | case3 year start past _ later ih =>
    have counted := (fit32?_eq_some_iff.mp later).1
    rw [forwardIn, summed year start lowest begun]
    exact (if_neg past).trans ((dif_pos counted).trans (ih (by omega) (by omega)))

theorem backIn_eq (room : c.Roomy pivot) (highest : start ≤ 9223372036854775807) :
    c.backIn a pivot year start = orRefuse (c.outOfRange pivot) (c.back? pivot year start) := by
  have summed (year start : Int) (highest : start ≤ 9223372036854775807) (late : pivot < start) :
      (c.yearLengthIn a year >>= fun n => a.keep (start - n)) =
        .ok (start - c.yearLength year) := by
    have below := room.below year
    simp only [room.yearIn, bind, Except.bind]
    exact a.keep_of_le (by omega) (by omega)
  fun_induction back? c pivot year start with
  | case1 year start reached =>
    rw [backIn]
    exact if_pos reached
  | case2 year start early first =>
    have uncounted : ¬ Fits32 (year - 1) := by simpa [fit32?] using first
    rw [backIn]
    exact (if_neg early).trans (dif_neg uncounted)
  | case3 year start early _ earlier ih =>
    have counted := (fit32?_eq_some_iff.mp earlier).1
    rw [backIn, summed (year - 1) start highest (Int.not_le.mp early)]
    exact (if_neg early).trans ((dif_pos counted).trans (ih (by omega)))

theorem yearOfIn_eq (room : c.Roomy pivot) :
    c.yearOfIn a pivot = orRefuse (c.outOfRange pivot) (c.yearOf? pivot) := by
  unfold yearOfIn yearOf?
  split
  · next late => exact forwardIn_eq room c.epoch_fits.1 late
  · exact backIn_eq room c.epoch_fits.2

theorem ofPivotIn_eq (room : c.Roomy pivot) :
    c.ofPivotIn a pivot = inWords ((CalendarSystem.table c).ofPivot pivot) := by
  simp only [ofPivotIn, yearOfIn_eq room, CalendarSystem.ofPivot, ofPivot?, Option.bind_eq_bind]
  cases found : c.yearOf? pivot with
  | none => rfl
  | some walked =>
    obtain ⟨year, start⟩ := walked
    obtain ⟨rfl, begun, before⟩ := yearOf?_spec found
    have next : c.yearStart (year + 1) = c.yearStart year + c.yearLength year :=
      c.yearStart_succ year
    have above := room.above year
    have below := room.below year
    simp only [orRefuse, bind, Except.bind, Option.bind,
      locateIn_eq begun (show -9223372036854775808 ≤ c.yearStart year by omega) (by omega)]
    cases MonthTable.locate (c.monthLengths year) (pivot - c.yearStart year).toNat <;> rfl

end

end TableCalendar

end Holidays
