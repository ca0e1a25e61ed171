import Holidays.Proofs.Chronology.Registration

namespace Holidays

namespace CalendarSystem

variable {s : CalendarSystem} {year low high pivot : Int}

theorem InYear.begun_iff (inside : s.InYear year pivot) :
    s.yearStart low ≤ pivot ↔ low ≤ year := by
  constructor
  · intro begun
    by_contra later
    have ended := s.yearStart_mono (show year + 1 ≤ low by omega)
    have before := inside.2
    omega
  · intro earlier
    exact Int.le_trans (s.yearStart_mono earlier) inside.1

theorem InYear.before_iff (inside : s.InYear year pivot) :
    pivot < s.yearStart (high + 1) ↔ year ≤ high := by
  rw [← Int.not_le, inside.begun_iff]
  omega

theorem InYear.exists_day (inside : s.InYear year pivot) (held : s.HasYear year) :
    ∃ date : Ymd, date.year = year ∧ s.toPivot date = .ok pivot := by
  obtain ⟨begun, before⟩ := inside
  have next := s.yearStart_succ year
  have within : (pivot - s.yearStart year).toNat < MonthTable.total (s.monthLengths year) := by
    omega
  obtain ⟨month, day, located⟩ := MonthTable.locate_isSome within
  obtain ⟨listed, passed⟩ := (MonthTable.locate_eq_some_iff begun).mp located
  have has : s.HasDay ⟨year, month, day⟩ := listed
  exact ⟨⟨year, month, day⟩, rfl, by rw [toPivot_eq_place held has, place, passed]⟩

theorem Counts.hasYear (counts : s.Counts year) : s.HasYear year := by
  cases s with
  | gregorian => exact counts
  | julian | islamic | table => trivial

theorem InYear.exists_ofPivot?_iff (inside : s.InYear year pivot) :
    (∃ date, s.ofPivot? pivot = some date) ↔ s.Counts year := by
  constructor
  · rintro ⟨date, found⟩
    exact (inYear_of_ofPivot? found).unique inside ▸ counts_of_ofPivot? found
  · intro counts
    obtain ⟨date, rfl, there⟩ := inside.exists_day counts.hasYear
    exact ⟨date, ofPivot?_of_toPivot counts there⟩

theorem exists_inYear_julian (pivot : Int) : ∃ year, julian.InYear year pivot := by
  obtain ⟨has, same⟩ := Julian.steps_spec (pivot + 32082)
  generalize Julian.steps (pivot + 32082) = steps at has same
  rw [Int.add_sub_cancel] at same
  have there : julian.toPivot ⟨steps.year, steps.month.toNat, steps.day.toNat⟩ = .ok pivot :=
    same ▸ if_pos has
  exact ⟨steps.year, inYear_of_toPivot there⟩

theorem exists_inYear_islamic (pivot : Int) : ∃ year, islamic.InYear year pivot :=
  ⟨_, Islamic.inYear_estimate pivot⟩

/-- The days of the years of 32 bits have the pivots from the first to the last one. -/
def Spans (s : CalendarSystem) (first last : Int) : Prop :=
  ∀ a pivot, (∃ date : Ymd, Fits32 date.year ∧ s.toPivotIn a date = .ok pivot) ↔
    first ≤ pivot ∧ pivot ≤ last

theorem spans_years (placed : ∀ pivot, ∃ year, s.InYear year pivot)
    (years : ∀ year, s.HasYear year) (fit : ∀ date, s.SumsFit date) :
    s.Spans (s.yearStart (-2147483648)) (s.yearStart (2147483647 + 1) - 1) := by
  intro a pivot
  obtain ⟨year, inside⟩ := placed pivot
  rw [Int.le_sub_one_iff, inside.begun_iff, inside.before_iff]
  constructor
  · rintro ⟨date, fits, there⟩
    rw [toPivotIn_eq a fits (fit date), inWords_eq_ok_iff] at there
    exact (inYear_of_toPivot there).unique inside ▸ fits
  · intro fits
    obtain ⟨date, rfl, there⟩ := inside.exists_day (years year)
    refine ⟨date, fits, ?_⟩
    rw [toPivotIn_eq a fits (fit date), there, inWords_ok]

theorem exists_ofPivot?_iff (placed : ∀ pivot, ∃ year, s.InYear year pivot)
    (counted : ∀ year, s.Counts year ↔ low ≤ year ∧ year ≤ high) (pivot : Int) :
    (∃ date, s.ofPivot? pivot = some date) ↔
      s.yearStart low ≤ pivot ∧ pivot ≤ s.yearStart (high + 1) - 1 := by
  obtain ⟨year, inside⟩ := placed pivot
  rw [Int.le_sub_one_iff, inside.begun_iff, inside.before_iff, ← counted,
    inside.exists_ofPivot?_iff]

theorem exists_ofPivot?_julian (pivot : Int) :
    (∃ date, julian.ofPivot? pivot = some date) ↔
      -784366681374 ≤ pivot ∧ pivot ≤ 784370123489 := by
  have years : ∀ year, julian.Counts year ↔ -2147483648 ≤ year ∧ year ≤ 2147483647 :=
    fun year => Iff.rfl
  exact exists_ofPivot?_iff exists_inYear_julian years pivot

theorem exists_ofPivot?_islamic (pivot : Int) :
    (∃ date, islamic.ofPivot? pivot = some date) ↔
      -760994673977 ≤ pivot ∧ pivot ≤ 760998569793 := by
  have years : ∀ year, islamic.Counts year ↔ -2147483648 ≤ year ∧ year ≤ 2147483646 := by
    intro year
    simp only [Counts, Fits32]
    omega
  exact exists_ofPivot?_iff exists_inYear_islamic years pivot

end CalendarSystem

namespace Registry

open CalendarSystem (julian islamic)

def HasBuiltIns (r : Registry) : Prop := ∀ b : BuiltIn, r.get b.system.id = .ok b.system

theorem Reachable.hasBuiltIns {r : Registry} (h : r.Reachable) : r.HasBuiltIns :=
  h.consistent.builtIn

/-- The pivots from the first to the last one have dates. Of those outside, some stop checked
arithmetic, and all others are refused. -/
structure Converts (r : Registry) (s : CalendarSystem) (first last : Int)
    (Overflows : Int → Prop) : Prop where
  inside : ∀ a pivot, first ≤ pivot → pivot ≤ last → ∃ date : Ymd, Fits32 date.year ∧
    r.toPivotIn a ⟨s.id, date⟩ = .ok pivot ∧ r.ofPivotIn a s.id pivot = .ok ⟨s.id, date⟩
  outside : ∀ a pivot, ¬ (first ≤ pivot ∧ pivot ≤ last) → ¬ Overflows pivot →
    r.ofPivotIn a s.id pivot = .error (.refused (.pivotOutOfRange s.id pivot))
  overflowing : ∀ pivot, Overflows pivot → ∃ value, ¬ Fits64 value ∧
    r.ofPivotIn .checked s.id pivot = .error (.overflow value)

variable {r : Registry} {s : CalendarSystem}

theorem converts_of_exact {first last : Int} {Overflows : Int → Prop} (got : r.get s.id = .ok s)
    (range : ∀ pivot, (∃ date, s.ofPivot? pivot = some date) ↔ first ≤ pivot ∧ pivot ≤ last)
    (fit : ∀ date, s.SumsFit date)
    (exact : ∀ a pivot, ¬ Overflows pivot → s.ofPivotIn a pivot = inWords (s.ofPivot pivot))
    (apart : ∀ pivot, Overflows pivot → ¬ (first ≤ pivot ∧ pivot ≤ last))
    (stops : ∀ pivot, Overflows pivot →
      ∃ value, ¬ Fits64 value ∧ s.ofPivotIn .checked pivot = .error (.overflow value)) :
    r.Converts s first last Overflows where
  inside a pivot begun before := by
    have inRange : first ≤ pivot ∧ pivot ≤ last := ⟨begun, before⟩
    obtain ⟨date, found⟩ := (range pivot).mpr inRange
    have fits := CalendarSystem.fits_of_ofPivot? found
    refine ⟨date, fits, ?_, ?_⟩
    · rw [toPivotIn_of_get got, CalendarSystem.toPivotIn_eq a fits (fit date),
        CalendarSystem.toPivot_of_ofPivot? found, inWords_ok]
    · rw [ofPivotIn_of_get got, exact a pivot fun overflows => apart pivot overflows inRange,
        s.ofPivot_eq, found]
      rfl
  outside a pivot beyond fine := by
    have missing : s.ofPivot? pivot = none := by
      rw [Option.eq_none_iff_forall_ne_some]
      exact fun date found => beyond ((range pivot).mp ⟨date, found⟩)
    rw [ofPivotIn_of_get got, exact a pivot fine, s.ofPivot_eq, missing]
    rfl
  overflowing pivot overflows := by
    rw [ofPivotIn_of_get got]
    exact stops pivot overflows

theorem converts_julian (builtIns : r.HasBuiltIns) :
    r.Converts julian (-784366681374) 784370123489 Julian.Overflows := by
  apply converts_of_exact (builtIns .julian) CalendarSystem.exists_ofPivot?_julian
  case fit => exact fun _ => trivial
  case exact => exact fun a pivot fine => Julian.ofPivotIn_eq fine
  case apart =>
    intro pivot overflows inRange
    have late := overflows.2
    omega
  case stops => exact fun pivot overflows => ⟨_, by decide, Julian.ofPivotIn_checked overflows⟩

theorem converts_islamic (builtIns : r.HasBuiltIns) :
    r.Converts islamic (-760994673977) 760998569793 (fun _ => False) := by
  apply converts_of_exact (builtIns .islamic) CalendarSystem.exists_ofPivot?_islamic
  case fit => exact fun _ => trivial
  case exact => exact fun a pivot _ => Islamic.ofPivotIn_eq
  case apart => exact fun pivot => False.elim
  case stops => exact fun pivot => False.elim

theorem HasBuiltIns.get_civil (builtIns : r.HasBuiltIns) :
    r.get CalendarSystem.civilId = .ok .gregorian := builtIns .gregorian

theorem HasBuiltIns.exists_ofCivil (builtIns : r.HasBuiltIns) (b : BuiltIn) (d : Date) :
    ∃ e, r.ofCivil d b.system.id = .ok e ∧ b.system.InYear e.ymd.year d.pivot := by
  have there : r.toPivot (.civil d) = .ok d.pivot := by
    simp [toPivot, SystemDate.civil, builtIns.get_civil, CalendarSystem.toPivot, Date.ymd,
      Date.ofYmd?_self, bind, Except.bind]
  -- The civil dates lie far inside the years of 32 bits.
  obtain ⟨low, high⟩ := d.pivot_bounds
  have back : ∃ date, b.system.ofPivot? d.pivot = some date := by
    cases b with
    | gregorian =>
      exact ⟨d.ymd, Option.map_eq_some_iff.mpr ⟨d, Date.ofPivot?_eq_some_iff.mpr rfl, rfl⟩⟩
    | julian => exact (CalendarSystem.exists_ofPivot?_julian d.pivot).mpr (by omega)
    | islamic => exact (CalendarSystem.exists_ofPivot?_islamic d.pivot).mpr (by omega)
  obtain ⟨date, named⟩ := back
  have converted : r.ofPivot b.system.id d.pivot = .ok ⟨b.system.id, date⟩ := by
    rw [ofPivot_of_get (builtIns b), named]
    rfl
  exact ⟨⟨b.system.id, date⟩, bind_eq_ok_iff.mpr ⟨d.pivot, there, converted⟩,
    CalendarSystem.inYear_of_ofPivot? named⟩

/-- Of the days in years of 32 bits, conversion from a pivot refuses no Julian one, and of the
Islamic ones just those of the last year. All other pivots are refused, but for 35 by the lower end
of the words, at which the Julian conversion overflows. -/
theorem ofPivot_refuses (builtIns : r.HasBuiltIns) :
    (julian.toPivotIn .checked ⟨-2147483648, 1, 1⟩ = .ok (-784366681374) ∧
      julian.toPivotIn .checked ⟨2147483647, 12, 31⟩ = .ok 784370123489 ∧
      julian.Spans (-784366681374) 784370123489 ∧
      r.Converts julian (-784366681374) 784370123489 fun pivot =>
        -2305843009213726034 ≤ pivot ∧ pivot ≤ -2305843009213726000) ∧
    islamic.toPivotIn .checked ⟨-2147483648, 1, 1⟩ = .ok (-760994673977) ∧
    islamic.toPivotIn .checked ⟨2147483646, 12, 29⟩ = .ok 760998569793 ∧
    islamic.toPivotIn .checked ⟨2147483647, 12, 30⟩ = .ok 760998570148 ∧
    islamic.Spans (-760994673977) 760998570148 ∧
    r.Converts islamic (-760994673977) 760998569793 (fun _ => False) := by
  have julianSpans := CalendarSystem.spans_years CalendarSystem.exists_inYear_julian
    (fun _ => trivial) fun _ => trivial
  have islamicSpans := CalendarSystem.spans_years CalendarSystem.exists_inYear_islamic
    (fun _ => trivial) fun _ => trivial
  exact ⟨⟨by decide, by decide, julianSpans, converts_julian builtIns⟩, by decide, by decide,
    by decide, islamicSpans, converts_islamic builtIns⟩

/-- The last days that are converted, the days after them, and a pivot that overflows. -/
theorem ofPivot_refuses_lastDays :
    (defaults.run someChanges).HasBuiltIns ∧
    (defaults.run someChanges).ofPivotIn .checked julian.id 784370123489 =
      .ok ⟨julian.id, ⟨2147483647, 12, 31⟩⟩ ∧
    (defaults.run someChanges).ofPivotIn .checked julian.id 784370123490 =
      .error (.refused (.pivotOutOfRange julian.id 784370123490)) ∧
    (∃ value, ¬ Fits64 value ∧
      (defaults.run someChanges).ofPivotIn .checked julian.id (-2305843009213726034) =
        .error (.overflow value)) ∧
    (defaults.run someChanges).ofPivotIn .checked islamic.id 760998569793 =
      .ok ⟨islamic.id, ⟨2147483646, 12, 29⟩⟩ ∧
    (defaults.run someChanges).ofPivotIn .checked islamic.id 760998569794 =
      .error (.refused (.pivotOutOfRange islamic.id 760998569794)) := by
  have reachable : (defaults.run someChanges).Reachable := Reachable.defaults.run someChanges
  have builtIns := reachable.hasBuiltIns
  obtain ⟨⟨-, lastJulian, -, julianDays⟩, -, lastIslamic, -, -, islamicDays⟩ :=
    ofPivot_refuses builtIns
  obtain ⟨date, -, there, converted⟩ :=
    julianDays.inside .checked 784370123489 (by decide) (by decide)
  obtain ⟨date', -, there', converted'⟩ :=
    islamicDays.inside .checked 760998569793 (by decide) (by decide)
  rw [toPivotIn_of_get (builtIns .julian)] at there
  rw [toPivotIn_of_get (builtIns .islamic)] at there'
  cases CalendarSystem.toPivot_inj (CalendarSystem.checked_toPivotIn there).1
    (CalendarSystem.checked_toPivotIn lastJulian).1
  cases CalendarSystem.toPivot_inj (CalendarSystem.checked_toPivotIn there').1
    (CalendarSystem.checked_toPivotIn lastIslamic).1
  exact ⟨builtIns, converted, julianDays.outside _ _ (by decide) (by decide),
    julianDays.overflowing _ (by decide), converted',
    islamicDays.outside _ _ (by decide) not_false⟩

/-- The first day of the last Islamic year has a pivot that leads nowhere. -/
theorem ofPivot_islamic_lastYear :
    ¬ ∀ pivot, (∃ d, defaults.ofPivotIn .checked islamic.id pivot = .ok d) ↔
      ∃ date : Ymd, Fits32 date.year ∧ islamic.toPivotIn .checked date = .ok pivot := by
  intro claimed
  have there : islamic.toPivotIn .checked ⟨2147483647, 1, 1⟩ = .ok 760998569794 := by decide
  obtain ⟨d, converted⟩ := (claimed 760998569794).mpr ⟨_, by decide, there⟩
  have outside := (converts_islamic Reachable.defaults.hasBuiltIns).outside .checked 760998569794
    (by decide) not_false
  rw [outside] at converted
  cases converted

end Registry

end Holidays
