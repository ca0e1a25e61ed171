import Holidays.Proofs.Chronology.Pivot
import Holidays.Proofs.LeapRule.Tokens
import Mathlib.Data.Int.LeastGreatest

namespace Holidays

theorem Fits32.eq_of_succ {n : Int} (fits : Fits32 n) (h : fit32? (n + 1) = none) :
    n + 1 = 2147483648 := by
  have outside : ¬ Fits32 (n + 1) := by simpa [fit32?] using h
  simp only [Fits32] at fits outside
  omega

theorem Fits32.eq_of_pred {n : Int} (fits : Fits32 n) (h : fit32? (n - 1) = none) :
    n = -2147483648 := by
  have under : ¬ Fits32 (n - 1) := by simpa [fit32?] using h
  simp only [Fits32] at fits under
  omega

structure ChronologyDefinition.Describes (d : ChronologyDefinition) : Prop where
  named : Text.trim d.id ≠ ""
  byFormula : d.algorithm = .formula
  someMonth : d.months ≠ []
  someDay : ∀ m ∈ d.months, m.days ≠ 0 ∧ m.leapDays ≠ some 0
  compiles : ∃ source rule, d.leapFormula = some source ∧ LeapRule.compile source = .ok rule

namespace TableCalendar

section

variable {c : TableCalendar}

theorem yearStart_one (c : TableCalendar) : c.yearStart 1 = c.epoch := by
  simp [yearStart, span_eq_nil]

theorem yearStart_gap {y z : Int} (h : y ≤ z) : z - y ≤ c.yearStart z - c.yearStart y := by
  induction z, h using Int.leInduction with
  | base => omega
  | succ z _ ih =>
    have step : c.yearStart (z + 1) = c.yearStart z + c.yearLength z := c.yearStart_succ z
    have := c.yearLength_pos z
    omega

theorem forward?_none {pivot year start : Int} (starts : start = c.yearStart year)
    (fits : Fits32 year) (h : c.forward? pivot year start = none) :
    c.yearStart 2147483648 ≤ pivot := by
  fun_induction forward? c pivot year start with
  | case1 => cases h
  | case2 year start past last =>
    have next : c.yearStart (year + 1) = c.yearStart year + c.yearLength year :=
      c.yearStart_succ year
    rw [fits.eq_of_succ last] at next
    omega
  | case3 year start past _ later ih =>
    exact ih (by rw [yearStart_succ, starts]; rfl) (fit32?_eq_some_iff.mp later).1 h

theorem back?_none {pivot year start : Int} (starts : start = c.yearStart year)
    (fits : Fits32 year) (h : c.back? pivot year start = none) :
    pivot < c.yearStart (-2147483648) := by
  fun_induction back? c pivot year start with
  | case1 => cases h
  | case2 year start early first =>
    rw [← fits.eq_of_pred first]
    omega
  | case3 year start early _ earlier ih =>
    have step : c.yearStart (year - 1 + 1) = c.yearStart (year - 1) + c.yearLength (year - 1) :=
      c.yearStart_succ (year - 1)
    rw [Int.sub_add_cancel] at step
    exact ih (by omega) (fit32?_eq_some_iff.mp earlier).1 h

theorem yearOf?_of_inYear {year pivot : Int} (fits : Fits32 year)
    (inside : (CalendarSystem.table c).InYear year pivot) :
    c.yearOf? pivot = some (year, c.yearStart year) := by
  obtain ⟨begun, before⟩ := inside
  simp only [CalendarSystem.yearStart] at begun before
  cases walked : c.yearOf? pivot with
  | none =>
    obtain ⟨low, high⟩ := fits
    unfold yearOf? at walked
    split at walked
    · have late := forward?_none c.yearStart_one.symm (by decide) walked
      have := c.yearStart_gap (show year + 1 ≤ 2147483648 by omega)
      omega
    · have early := back?_none c.yearStart_one.symm (by decide) walked
      have := c.yearStart_gap low
      omega
  | some found =>
    obtain ⟨found, start⟩ := found
    obtain ⟨rfl, begun', before'⟩ := yearOf?_spec walked
    have same : (CalendarSystem.table c).InYear found pivot := ⟨begun', before'⟩
    rw [same.unique ⟨begun, before⟩]

theorem ofPivot?_eq_some_iff {pivot : Int} {date : Ymd} :
    c.ofPivot? pivot = some date ↔
      Fits32 date.year ∧ (CalendarSystem.table c).HasDay date ∧ c.pivotOf date = pivot := by
  constructor
  · intro h
    have there : (CalendarSystem.table c).ofPivot? pivot = some date := h
    obtain ⟨has, passed⟩ := CalendarSystem.ofPivot?_spec there
    exact ⟨CalendarSystem.fits_of_ofPivot? there, has, passed.symm⟩
  · rintro ⟨fits, has, rfl⟩
    have inside : (CalendarSystem.table c).InYear date.year (c.pivotOf date) :=
      CalendarSystem.inYear_of_hasDay has
    have located : MonthTable.locate (c.monthLengths date.year)
        (c.pivotOf date - c.yearStart date.year).toNat = some (date.month, date.day) :=
      (MonthTable.locate_eq_some_iff inside.1).mpr ⟨has, rfl⟩
    simp [ofPivot?, yearOf?_of_inYear fits inside, located]

/-- The year that holds a pivot is no further from the first one than the pivot from the epoch. -/
theorem exists_inYear (c : TableCalendar) (pivot : Int) :
    ∃ year, (CalendarSystem.table c).InYear year pivot ∧
      (year - 1).natAbs ≤ (pivot - c.epoch).natAbs := by
  have low := c.yearStart_gap (show 1 - ((pivot - c.epoch).natAbs : Int) ≤ 1 by omega)
  have high := c.yearStart_gap (show 1 ≤ 1 + ((pivot - c.epoch).natAbs : Int) + 1 by omega)
  rw [c.yearStart_one] at low high
  have bounded : ∀ y, c.yearStart y ≤ pivot → y ≤ 1 + ((pivot - c.epoch).natAbs : Int) := by
    intro y begun
    by_cases late : 1 + ((pivot - c.epoch).natAbs : Int) + 1 ≤ y
    · have := c.yearStart_gap late
      omega
    · omega
  obtain ⟨year, begun, greatest⟩ := Int.exists_greatest_of_bdd ⟨_, bounded⟩
    ⟨1 - ((pivot - c.epoch).natAbs : Int), by omega⟩
  have notLater : ¬ c.yearStart (year + 1) ≤ pivot := by
    intro later
    have := greatest (year + 1) later
    omega
  have notBefore := greatest (1 - ((pivot - c.epoch).natAbs : Int)) (by omega)
  have notAfter := bounded year begun
  exact ⟨year, ⟨begun, Int.not_le.mp notLater⟩, by omega⟩

end

def forwardWithin (c : TableCalendar) (pivot : Int) : Nat → Int → Int → Option (Option (Int × Int))
  | 0, _, _ => none
  | years + 1, year, start =>
    if pivot < start + c.yearLength year then some (some (year, start))
    else
      match fit32? (year + 1) with
      | none => some none
      | some _ => c.forwardWithin pivot years (year + 1) (start + c.yearLength year)

def backWithin (c : TableCalendar) (pivot : Int) : Nat → Int → Int → Option (Option (Int × Int))
  | 0, _, _ => none
  | years + 1, year, start =>
    if start ≤ pivot then some (some (year, start))
    else
      match fit32? (year - 1) with
      | none => some none
      | some _ => c.backWithin pivot years (year - 1) (start - c.yearLength (year - 1))

/-- The year of a pivot, found by looking at no more than that many years; `none` where they do not
suffice. -/
def yearOfWithin (c : TableCalendar) (years : Nat) (pivot : Int) : Option (Option (Int × Int)) :=
  if c.epoch ≤ pivot then c.forwardWithin pivot years 1 c.epoch
  else c.backWithin pivot years 1 c.epoch

theorem forwardWithin_eq {c : TableCalendar} {pivot year start : Int} {years : Nat}
    (enough : (pivot - start).toNat < years) :
    c.forwardWithin pivot years year start = some (c.forward? pivot year start) := by
  induction years generalizing year start with
  | zero => omega
  | succ years ih =>
    have := c.yearLength_pos year
    rw [forward?, forwardWithin]
    split
    · rfl
    · cases fit32? (year + 1) with
      | none => rfl
      | some _ => exact ih (by omega)

theorem backWithin_eq {c : TableCalendar} {pivot year start : Int} {years : Nat}
    (enough : (start - pivot).toNat < years) :
    c.backWithin pivot years year start = some (c.back? pivot year start) := by
  induction years generalizing year start with
  | zero => omega
  | succ years ih =>
    have := c.yearLength_pos (year - 1)
    rw [back?, backWithin]
    split
    · rfl
    · cases fit32? (year - 1) with
      | none => rfl
      | some _ => exact ih (by omega)

theorem yearOfWithin_eq (c : TableCalendar) (pivot : Int) :
    c.yearOfWithin ((pivot - c.epoch).natAbs + 1) pivot = some (c.yearOf? pivot) := by
  unfold yearOfWithin yearOf?
  split
  · exact forwardWithin_eq (by omega)
  · exact backWithin_eq (by omega)

theorem ofDefinition_eq_ok {d : ChronologyDefinition} {c : TableCalendar}
    (h : ofDefinition d = .ok c) :
    c.id = Text.trim d.id ∧ c.epoch = d.epoch.toInt ∧ c.months = d.months ∧
      ∃ source, d.leapFormula = some source ∧ LeapRule.compile source = .ok c.rule := by
  revert h
  fun_cases ofDefinition d with
  | case7 _ _ _ _ _ source given rule compiled =>
    intro h
    cases h
    exact ⟨rfl, rfl, rfl, source, given, compiled⟩
  | _ => simp

theorem exists_ofDefinition_iff {d : ChronologyDefinition} :
    (∃ c, ofDefinition d = .ok c) ↔ d.Describes := by
  constructor
  · rintro ⟨c, built⟩
    revert built
    fun_cases ofDefinition d with
    | case7 _ named formula months days source given rule compiled =>
      intro _
      refine ⟨named, not_not.mp formula, months, ?_, source, rule, given, compiled⟩
      intro m held
      simpa using List.find?_eq_none.mp days m held
    | _ => simp
  · intro describes
    obtain ⟨source, rule, given, compiled⟩ := describes.compiles
    fun_cases ofDefinition d with
    | case1 _ unnamed => exact absurd unnamed describes.named
    | case2 _ _ other => exact absurd describes.byFormula other
    | case3 _ _ _ empty => exact absurd empty describes.someMonth
    | case4 _ _ _ _ m found =>
      have days := describes.someDay m (List.mem_of_find?_eq_some found)
      have none := List.find?_some found
      simp [days] at none
    | case5 _ _ _ _ _ missing =>
      rw [given] at missing
      cases missing
    | case6 _ _ _ _ _ source' given' fault failed =>
      rw [given] at given'
      cases given'
      rw [compiled] at failed
      cases failed
    | case7 => exact ⟨_, rfl⟩

theorem ofDefinition_eq_ok_of {d : ChronologyDefinition} {c : TableCalendar} {source : String}
    (named : c.id = Text.trim d.id) (nonempty : c.id ≠ "") (byFormula : d.algorithm = .formula)
    (epoch : c.epoch = d.epoch.toInt) (months : c.months = d.months)
    (given : d.leapFormula = some source) (compiled : LeapRule.compile source = .ok c.rule) :
    ofDefinition d = .ok c := by
  have describes : d.Describes :=
    ⟨named ▸ nonempty, byFormula, months ▸ c.months_ne_nil, months ▸ c.positive, source, c.rule,
      given, compiled⟩
  obtain ⟨c', built⟩ := exists_ofDefinition_iff.mpr describes
  obtain ⟨named', epoch', months', source', given', compiled'⟩ := ofDefinition_eq_ok built
  cases given.symm.trans given'
  have rule : c'.rule = c.rule := Except.ok.inj (compiled'.symm.trans compiled)
  rw [built]
  cases c
  cases c'
  cases named'.trans named.symm
  cases epoch'.trans epoch.symm
  cases months'.trans months.symm
  cases rule
  rfl

theorem ofPivot?_eq_none_iff {c : TableCalendar} {year pivot : Int}
    (inside : (CalendarSystem.table c).InYear year pivot) :
    c.ofPivot? pivot = none ↔ ¬ Fits32 year := by
  constructor
  · intro h fits
    have walked := yearOf?_of_inYear fits inside
    obtain ⟨begun, before⟩ := inside
    have next : c.yearStart (year + 1) =
        c.yearStart year + MonthTable.total (c.monthLengths year) := c.yearStart_succ year
    have within : (pivot - c.yearStart year).toNat < MonthTable.total (c.monthLengths year) := by
      simp only [CalendarSystem.yearStart] at begun before
      omega
    obtain ⟨month, day, located⟩ := MonthTable.locate_isSome within
    simp [ofPivot?, walked, located] at h
  · intro outside
    cases found : c.ofPivot? pivot with
    | none => rfl
    | some date =>
      have there : (CalendarSystem.table c).ofPivot? pivot = some date := found
      have same := (CalendarSystem.inYear_of_ofPivot? there).unique inside
      exact absurd (same ▸ CalendarSystem.fits_of_ofPivot? there) outside

/-- The calendar of any accepted definition takes each of its dates to a pivot and back, and each
pivot that has a date to that date and back. The walk to a pivot's year is short, and fails only
where that year cannot be counted. -/
theorem ofDefinition_roundTrip {d : ChronologyDefinition} {c : TableCalendar}
    (accepted : ofDefinition d = .ok c) :
    (∀ date : Ymd, Fits32 date.year → (CalendarSystem.table c).HasDay date →
      ∃ pivot, (CalendarSystem.table c).toPivot date = .ok pivot ∧
        (CalendarSystem.table c).ofPivot? pivot = some date) ∧
    (∀ pivot date, (CalendarSystem.table c).ofPivot? pivot = some date →
      Fits32 date.year ∧ (CalendarSystem.table c).HasDay date ∧
        (CalendarSystem.table c).toPivot date = .ok pivot) ∧
    ∀ pivot,
      c.yearOfWithin ((pivot - d.epoch.toInt).natAbs + 1) pivot = some (c.yearOf? pivot) ∧
      ∃ year, (CalendarSystem.table c).InYear year pivot ∧
        (year - 1).natAbs ≤ (pivot - d.epoch.toInt).natAbs ∧
        ((CalendarSystem.table c).ofPivot? pivot = none ↔ ¬ Fits32 year) := by
  obtain ⟨-, epoch, -⟩ := ofDefinition_eq_ok accepted
  rw [← epoch]
  refine ⟨?_, ?_, ?_⟩
  · intro date fits has
    refine ⟨c.pivotOf date, if_pos has, ?_⟩
    exact ofPivot?_eq_some_iff.mpr ⟨fits, has, rfl⟩
  · intro pivot date found
    have parts := ofPivot?_eq_some_iff.mp found
    exact ⟨parts.1, parts.2.1, CalendarSystem.toPivot_of_ofPivot? found⟩
  · intro pivot
    obtain ⟨year, inside, near⟩ := c.exists_inYear pivot
    exact ⟨c.yearOfWithin_eq pivot, year, inside, near, ofPivot?_eq_none_iff inside⟩

def tenDayMonths : List Month :=
  List.replicate 10 ⟨"Month", 36, none⟩ ++ [⟨"Epagomenal", 5, some 6⟩]

def tenDays : ChronologyDefinition where
  id := " tenday "
  name := none
  description := none
  epoch := 2451545
  months := tenDayMonths
  algorithm := .formula
  leapFormula := some "year % 4 == 0"

def tenDayCalendar : TableCalendar where
  id := "tenday"
  epoch := 2451545
  months := tenDayMonths
  rule := ⟨"year % 4 == 0", .compareInts .equal (.remainder .year 4) (.literal 0)⟩
  epoch_fits := by decide
  months_ne_nil := by decide
  positive := by decide

theorem ofDefinition_tenDays : ofDefinition tenDays = .ok tenDayCalendar :=
  ofDefinition_eq_ok_of (by decide +kernel) (by decide) rfl rfl rfl rfl
    LeapRule.compile_everyFourth

/-- The day before the epoch ends a leap year, and the walk looks at two years to find it. -/
theorem ofDefinition_roundTrip_tenDays :
    ofDefinition tenDays = .ok tenDayCalendar ∧
    (CalendarSystem.table tenDayCalendar).toPivot ⟨0, 11, 6⟩ = .ok 2451544 ∧
    (CalendarSystem.table tenDayCalendar).ofPivot? 2451544 = some ⟨0, 11, 6⟩ ∧
    tenDayCalendar.yearOfWithin 2 2451544 = some (tenDayCalendar.yearOf? 2451544) := by
  obtain ⟨onDates, -, walk⟩ := ofDefinition_roundTrip ofDefinition_tenDays
  obtain ⟨pivot, there, back⟩ := onDates ⟨0, 11, 6⟩ (by decide) (by decide)
  have known : (CalendarSystem.table tenDayCalendar).toPivot ⟨0, 11, 6⟩ = .ok 2451544 := by decide
  rw [known] at there
  cases there
  exact ⟨ofDefinition_tenDays, known, back, (walk 2451544).1⟩

end TableCalendar

end Holidays
