import Holidays.Proofs.Chronology.Refusals
import Holidays.Proofs.Generation.FixedDays
import Holidays.Proofs.Generation.Systems

/-!
Days past the ends of the civil dates. The month and day of a rule are converted in every year of
their system that overlaps the range, before the range is looked at. Such a year can reach beyond
the first or the last civil date; a day that lies there fails the expansion, and nothing else does.
-/
namespace Holidays

theorem Date.exists_pivot {pivot : Int} (low : Date.first.pivot ≤ pivot)
    (high : pivot ≤ Date.last.pivot) : ∃ d : Date, d.pivot = pivot := by
  cases found : Date.ofPivot? pivot with
  | none => exact absurd ⟨low, high⟩ (Date.ofPivot?_eq_none_iff.mp found)
  | some d => exact ⟨d, Date.ofPivot?_eq_some_iff.mp found⟩

theorem DateRange.exists_pivot {range : DateRange} {pivot : Int}
    (low : range.first.pivot ≤ pivot) (high : pivot ≤ range.last.pivot) :
    ∃ d : Date, range.Contains d ∧ d.pivot = pivot := by
  have first : Date.first.pivot ≤ range.first.pivot :=
    Int.add_le_add_right range.first.number_bounds.1 _
  have last : range.last.pivot ≤ Date.last.pivot :=
    Int.add_le_add_right range.last.number_bounds.2 _
  obtain ⟨d, rfl⟩ := Date.exists_pivot (Int.le_trans first low) (Int.le_trans high last)
  exact ⟨d, ⟨Int.le_of_add_le_add_right low, Int.le_of_add_le_add_right high⟩, rfl⟩

namespace CalendarSystem

def Overlaps (s : CalendarSystem) (range : DateRange) (year : Int) : Prop :=
  ∃ d : Date, range.Contains d ∧ s.InYear year d.pivot

def Overshoots (s : CalendarSystem) (range : DateRange) (month day : Nat) (pivot : Int) : Prop :=
  ∃ year, s.Overlaps range year ∧ s.toPivot ⟨year, month, day⟩ = .ok pivot ∧
    ∀ d : Date, d.pivot ≠ pivot

variable {s : CalendarSystem} {range : DateRange} {month day : Nat} {year pivot : Int}

theorem yearStart_lt (s : CalendarSystem) (year : Int) :
    s.yearStart year < s.yearStart (year + 1) := by
  have first := inYear_of_hasDay (s.hasDay_first year)
  exact Int.lt_of_le_of_lt first.1 first.2

theorem mem_span_iff_overlaps {low high : Int} (first : s.InYear low range.first.pivot)
    (last : s.InYear high range.last.pivot) : year ∈ span low high ↔ s.Overlaps range year := by
  rw [mem_span]
  constructor
  · rintro ⟨above, below⟩
    by_cases same : low = year
    · exact ⟨range.first, ⟨Int.le_refl _, range.ordered⟩, same ▸ first⟩
    · -- The year begins after the first date, and not after the last one.
      have begins : range.first.pivot < s.yearStart (year - 1 + 1) :=
        first.before_iff.mpr (by omega)
      rw [Int.sub_add_cancel] at begins
      have within : s.yearStart year ≤ range.last.pivot := last.begun_iff.mpr below
      obtain ⟨d, inside, there⟩ := DateRange.exists_pivot (Int.le_of_lt begins) within
      exact ⟨d, inside, there ▸ ⟨Int.le_refl _, s.yearStart_lt year⟩⟩
  · rintro ⟨d, ⟨above, below⟩, inside⟩
    exact ⟨first.mono inside (Int.add_le_add_right above _),
      inside.mono last (Int.add_le_add_right below _)⟩

theorem toPivot_gregorian_eq_ok_iff :
    gregorian.toPivot ⟨year, month, day⟩ = .ok pivot ↔
      ∃ d, Date.ofYmd? year month day = some d ∧ d.pivot = pivot := by
  simp only [toPivot]
  cases Date.ofYmd? year month day <;> simp

theorem not_overshoots_gregorian : ¬ gregorian.Overshoots range month day pivot := by
  rintro ⟨year, -, there, beyond⟩
  obtain ⟨d, -, same⟩ := toPivot_gregorian_eq_ok_iff.mp there
  exact beyond d same

theorem yearStart_succ_le (b : Registry.BuiltIn) (year : Int) :
    b.system.yearStart (year + 1) ≤ b.system.yearStart year + 366 := by
  cases b with
  | gregorian =>
    simp only [Registry.BuiltIn.system, yearStart, Civil.yearStart]
    omega
  | julian =>
    simp only [Registry.BuiltIn.system, yearStart, Julian.yearStart]
    omega
  | islamic =>
    simp only [Registry.BuiltIn.system, yearStart, Islamic.yearStart]
    omega

/-- Years are no longer than 366 days, so that one civil year is far enough from either end. -/
theorem not_overshoots_of_far {b : Registry.BuiltIn} (low : Civil.firstYear < range.first.year)
    (high : range.last.year < Civil.lastYear) :
    ¬ b.system.Overshoots range month day pivot := by
  rintro ⟨year, ⟨d, ⟨above, below⟩, inside⟩, there, beyond⟩
  have held : b.system.InYear year pivot := inYear_of_toPivot there
  have short := yearStart_succ_le b year
  have early : Civil.yearStart (Civil.firstYear + 1) ≤ Civil.yearStart d.year :=
    Civil.yearStart_mono (Int.le_trans low (Date.year_mono above))
  have late : Civil.yearStart (d.year + 1) ≤ Civil.yearStart Civil.lastYear :=
    Civil.yearStart_mono (Int.lt_of_le_of_lt (Date.year_mono below) high)
  have firstYear : Civil.yearStart (Civil.firstYear + 1) = Date.first.number + 365 := by decide
  have lastYear : Civil.yearStart Civil.lastYear = Date.last.number - 364 := by decide
  have within := Civil.yearOf_bounds d.number
  simp only [Date.year, InYear, Date.pivot] at early late inside held
  have first : Date.first.pivot ≤ pivot := by
    simp only [Date.pivot]
    omega
  have last : pivot ≤ Date.last.pivot := by
    simp only [Date.pivot]
    omega
  obtain ⟨e, same⟩ := Date.exists_pivot first last
  exact beyond e same

end CalendarSystem

def dayInYear (registry : Registry) (s : CalendarSystem) (month day : Nat) (year : Int) :
    Except GenerationError (Option Date) :=
  if s.HasDay ⟨year, month, day⟩ then chronologically do
    let pivot ← s.toPivot ⟨year, month, day⟩
    let civil ← registry.ofPivot CalendarSystem.civilId pivot
    return civil.toDate?
  else .ok none

section

variable {x : Expander} {registry : Registry} {s : CalendarSystem} {month day : Nat} {year : Int}

theorem foreignMonthDay_eq (x : Expander) (month day : Nat) (system : String) (range : DateRange) :
    x.foreignMonthDay month day system range = do
      let s ← chronologically (x.registry.get system)
      let first ← chronologically (x.registry.ofCivil range.first system)
      let last ← chronologically (x.registry.ofCivil range.last system)
      let dates ← (span first.ymd.year last.ymd.year).mapM (dayInYear x.registry s month day)
      return (dates.filterMap id).filter fun d => range.Contains d := rfl

theorem dayInYear_of_hasDay (builtIns : registry.HasBuiltIns) {pivot : Int}
    (there : s.toPivot ⟨year, month, day⟩ = .ok pivot) :
    dayInYear registry s month day year =
      match Date.ofPivot? pivot with
      | none => .error (.chronology (.pivotOutOfRange CalendarSystem.civilId pivot))
      | some d => .ok (some d) := by
  rw [dayInYear, if_pos (CalendarSystem.toPivot_eq there).1, there]
  simp only [bind, Except.bind, Registry.ofPivot_civil builtIns.get_civil]
  cases Date.ofPivot? pivot with
  | none => rfl
  | some d => simp [Registry.toDate?_civil, chronologically, pure, Except.pure]

theorem dayInYear_cases (builtIns : registry.HasBuiltIns) (held : s.HasYear year)
    (month day : Nat) :
    (dayInYear registry s month day year = .ok none ∧
      ∀ pivot, s.toPivot ⟨year, month, day⟩ ≠ .ok pivot) ∨
    (∃ d : Date, dayInYear registry s month day year = .ok (some d) ∧
      s.toPivot ⟨year, month, day⟩ = .ok d.pivot) ∨
    ∃ pivot, dayInYear registry s month day year =
        .error (.chronology (.pivotOutOfRange CalendarSystem.civilId pivot)) ∧
      s.toPivot ⟨year, month, day⟩ = .ok pivot ∧ ∀ d : Date, d.pivot ≠ pivot := by
  by_cases has : s.HasDay ⟨year, month, day⟩
  · have named : ∃ pivot, s.toPivot ⟨year, month, day⟩ = .ok pivot :=
      CalendarSystem.toPivot_of_hasDay held has
    obtain ⟨pivot, there⟩ := named
    have converted := dayInYear_of_hasDay builtIns there
    cases found : Date.ofPivot? pivot with
    | none =>
      rw [found] at converted
      refine .inr (.inr ⟨pivot, converted, there, ?_⟩)
      rintro d rfl
      rw [Date.ofPivot?_eq_some_iff.mpr rfl] at found
      cases found
    | some d =>
      rw [found] at converted
      exact .inr (.inl ⟨d, converted, Date.ofPivot?_eq_some_iff.mp found ▸ there⟩)
  · refine .inl ⟨if_neg has, ?_⟩
    intro pivot there
    exact has (CalendarSystem.toPivot_eq there).1

theorem dayInYear_eq_some_iff (builtIns : registry.HasBuiltIns) (held : s.HasYear year) {d : Date} :
    dayInYear registry s month day year = .ok (some d) ↔
      s.toPivot ⟨year, month, day⟩ = .ok d.pivot := by
  constructor
  · intro converted
    rcases dayInYear_cases builtIns held month day with
      ⟨missing, -⟩ | ⟨e, found, there⟩ | ⟨pivot, failed, -⟩
    · rw [converted] at missing
      cases missing
    · rw [converted] at found
      cases found
      exact there
    · rw [converted] at failed
      cases failed
  · intro there
    rw [dayInYear_of_hasDay builtIns there, Date.ofPivot?_eq_some_iff.mpr rfl]

variable {b : Registry.BuiltIn} {range : DateRange}

theorem foreignMonthDay_walk (builtIns : x.registry.HasBuiltIns) (b : Registry.BuiltIn)
    (month day : Nat) (range : DateRange) :
    ∃ years : List Int, (∀ year, year ∈ years ↔ b.system.Overlaps range year) ∧
      x.foreignMonthDay month day b.system.id range = do
        let dates ← years.mapM (dayInYear x.registry b.system month day)
        return (dates.filterMap id).filter fun d => range.Contains d := by
  obtain ⟨first, low, inFirst⟩ := builtIns.exists_ofCivil b range.first
  obtain ⟨last, high, inLast⟩ := builtIns.exists_ofCivil b range.last
  refine ⟨span first.ymd.year last.ymd.year,
    fun year => CalendarSystem.mem_span_iff_overlaps inFirst inLast, ?_⟩
  rw [foreignMonthDay_eq, builtIns b, low, high]
  rfl

theorem foreignMonthDay_ok (builtIns : x.registry.HasBuiltIns)
    (held : ∀ year, b.system.HasYear year) {dates : List Date}
    (h : x.foreignMonthDay month day b.system.id range = .ok dates) :
    (∀ pivot, ¬ b.system.Overshoots range month day pivot) ∧
    ∀ d, d ∈ dates ↔ range.Contains d ∧
      ∃ year, b.system.toPivot ⟨year, month, day⟩ = .ok d.pivot := by
  obtain ⟨years, overlap, walk⟩ := foreignMonthDay_walk builtIns b month day range
  rw [walk] at h
  obtain ⟨found, walked, same⟩ := bind_eq_ok_iff.mp h
  cases same
  constructor
  · -- The year is walked, and looking up its day would have stopped the walk.
    rintro pivot ⟨year, overlaps, there, beyond⟩
    obtain ⟨result, -, converted⟩ := exists_ok_of_mapM walked ((overlap year).mpr overlaps)
    rw [dayInYear_of_hasDay builtIns there] at converted
    cases reached : Date.ofPivot? pivot with
    | none => simp [reached] at converted
    | some d => exact beyond d (Date.ofPivot?_eq_some_iff.mp reached)
  · intro d
    simp only [List.mem_filter, List.mem_filterMap, id_eq, exists_eq_right, decide_eq_true_eq]
    constructor
    · rintro ⟨listed, inside⟩
      obtain ⟨year, -, converted⟩ := exists_of_mem_mapM walked listed
      exact ⟨inside, year, (dayInYear_eq_some_iff builtIns (held year)).mp converted⟩
    · rintro ⟨inside, year, there⟩
      -- The year of a date in the range overlaps it.
      have overlaps : b.system.Overlaps range year :=
        ⟨d, inside, CalendarSystem.inYear_of_toPivot there⟩
      obtain ⟨result, listed, converted⟩ := exists_ok_of_mapM walked ((overlap year).mpr overlaps)
      rw [(dayInYear_eq_some_iff builtIns (held year)).mpr there] at converted
      cases converted
      exact ⟨listed, inside⟩

theorem foreignMonthDay_error (builtIns : x.registry.HasBuiltIns)
    (held : ∀ year, b.system.HasYear year) {e : GenerationError}
    (h : x.foreignMonthDay month day b.system.id range = .error e) :
    ∃ pivot, b.system.Overshoots range month day pivot ∧
      e = .chronology (.pivotOutOfRange CalendarSystem.civilId pivot) := by
  obtain ⟨years, overlap, walk⟩ := foreignMonthDay_walk builtIns b month day range
  rw [walk, bind_eq_error_iff] at h
  rcases h with failed | ⟨found, -, done⟩
  · obtain ⟨year, listed, failed⟩ := exists_error_of_mapM failed
    rcases dayInYear_cases builtIns (held year) month day with
      ⟨missing, -⟩ | ⟨d, converted, -⟩ | ⟨pivot, refused, there, beyond⟩
    · rw [failed] at missing
      cases missing
    · rw [failed] at converted
      cases converted
    · rw [failed] at refused
      cases refused
      exact ⟨pivot, ⟨year, (overlap year).mp listed, there, beyond⟩, rfl⟩
  · cases done

theorem fixedMonthDay_ok (builtIns : x.registry.HasBuiltIns) {dates : List Date}
    (h : x.fixedMonthDay month day b.system.id range = .ok dates) :
    (∀ pivot, ¬ b.system.Overshoots range month day pivot) ∧
    ∀ d, d ∈ dates ↔ range.Contains d ∧
      ∃ year, b.system.toPivot ⟨year, month, day⟩ = .ok d.pivot := by
  cases b with
  | gregorian =>
    refine ⟨fun pivot => CalendarSystem.not_overshoots_gregorian, ?_⟩
    cases h
    intro d
    simp only [List.mem_filter, List.mem_filterMap, decide_eq_true_eq, Registry.BuiltIn.system,
      CalendarSystem.toPivot_gregorian_eq_ok_iff]
    constructor
    · rintro ⟨⟨year, -, named⟩, inside⟩
      exact ⟨inside, year, d, named, rfl⟩
    · rintro ⟨inside, year, e, named, same⟩
      have here : e = d := Date.ext_number (by simp only [Date.pivot] at same; omega)
      cases here
      have within : year ∈ range.years := by
        rw [← Date.year_of_ofYmd? named]
        exact mem_span.mpr ⟨Date.year_mono inside.1, Date.year_mono inside.2⟩
      exact ⟨⟨year, within, named⟩, inside⟩
  | julian => exact foreignMonthDay_ok (b := .julian) builtIns (fun _ => trivial) h
  | islamic => exact foreignMonthDay_ok (b := .islamic) builtIns (fun _ => trivial) h

theorem fixedMonthDay_error (builtIns : x.registry.HasBuiltIns) {e : GenerationError}
    (h : x.fixedMonthDay month day b.system.id range = .error e) :
    ∃ pivot, b.system.Overshoots range month day pivot ∧
      e = .chronology (.pivotOutOfRange CalendarSystem.civilId pivot) := by
  cases b with
  | gregorian => cases h
  | julian => exact foreignMonthDay_error (b := .julian) builtIns (fun _ => trivial) h
  | islamic => exact foreignMonthDay_error (b := .islamic) builtIns (fun _ => trivial) h

theorem expand_fixedMonthDay_eq {source : EventSource} {month day : UInt32}
    {named : Option String} (ruled : source.rule = .fixedMonthDay month day named)
    (range : DateRange) (provenance : String) :
    x.expand source range provenance =
      (x.fixedMonthDay month.toNat day.toNat (named.getD x.defaultSystem) range).map
        fun dates => dates.map fun d => ⟨source.key, d, source.name, provenance⟩ := by
  simp only [Expander.expand, Expander.dates, ruled]
  cases x.fixedMonthDay month.toNat day.toNat (named.getD x.defaultSystem) range with
  | error e => rfl
  | ok dates => simp [bind, Except.bind, pure, Except.pure, Except.map]

end

/-- A rule with a month and day of a built-in system gives the days of the range that the system
calls so, unless in some year that overlaps the range the day is no civil date; then it fails. This
happens neither in the civil system nor where the range keeps a year away from both ends. -/
theorem Expander.expand_fixedMonthDay_iff {x : Expander} (builtIns : x.registry.HasBuiltIns)
    {source : EventSource} {month day : UInt32} {named : Option String}
    (ruled : source.rule = .fixedMonthDay month day named) {b : Registry.BuiltIn}
    (system : named.getD x.defaultSystem = b.system.id) (range : DateRange) (provenance : String) :
    ((∃ found, x.expand source range provenance = .ok found) ↔
      ∀ pivot, ¬ b.system.Overshoots range month.toNat day.toNat pivot) ∧
    (∀ found, x.expand source range provenance = .ok found → ∀ d,
      d ∈ found.map Occurrence.date ↔ range.Contains d ∧
        ∃ year, b.system.toPivot ⟨year, month.toNat, day.toNat⟩ = .ok d.pivot) ∧
    (∀ e, x.expand source range provenance = .error e →
      ∃ pivot, b.system.Overshoots range month.toNat day.toNat pivot ∧
        e = .chronology (.pivotOutOfRange CalendarSystem.civilId pivot)) ∧
    (b = .gregorian ∨
      Civil.firstYear < range.first.year ∧ range.last.year < Civil.lastYear →
        ∃ found, x.expand source range provenance = .ok found) := by
  rw [expand_fixedMonthDay_eq ruled, system]
  have far (safe : b = .gregorian ∨
      Civil.firstYear < range.first.year ∧ range.last.year < Civil.lastYear) (pivot : Int) :
      ¬ b.system.Overshoots range month.toNat day.toNat pivot := by
    rcases safe with rfl | ⟨low, high⟩
    · exact CalendarSystem.not_overshoots_gregorian
    · exact CalendarSystem.not_overshoots_of_far low high
  cases outcome : x.fixedMonthDay month.toNat day.toNat b.system.id range with
  | ok dates =>
    obtain ⟨near, members⟩ := fixedMonthDay_ok builtIns outcome
    simp only [Except.map]
    refine ⟨⟨fun _ => near, fun _ => ⟨_, rfl⟩⟩, ?_, ?_, fun _ => ⟨_, rfl⟩⟩
    · intro found expanded d
      cases expanded
      simpa [Function.comp_def] using members d
    · intro e failed
      cases failed
  | error e =>
    obtain ⟨pivot, overshoots, refused⟩ := fixedMonthDay_error builtIns outcome
    refine ⟨⟨?_, fun near => absurd overshoots (near pivot)⟩, ?_, ?_, ?_⟩
    · rintro ⟨found, expanded⟩
      cases expanded
    · intro found expanded
      cases expanded
    · intro e' failed
      cases failed
      exact ⟨pivot, overshoots, refused⟩
    · intro safe
      exact absurd overshoots (far safe pivot)

def julianYearEnd : EventSource :=
  ⟨"year-end", "Year End", .fixedMonthDay 12 31 (some CalendarSystem.julianId), none, none, none⟩

def lastDay : DateRange := ⟨Date.last, Date.last, Int.le_refl _⟩

/-- The last civil date is August 15 of a Julian year, whose end is 138 days later. -/
theorem overshoots_lastDay : CalendarSystem.julian.Overshoots lastDay 12 31 97466962 := by
  have overlaps : CalendarSystem.julian.Overlaps lastDay 262137 :=
    ⟨Date.last, ⟨Int.le_refl _, Int.le_refl _⟩, by decide, by decide⟩
  refine ⟨262137, overlaps, by decide, ?_⟩
  intro d same
  have bounds := d.number_bounds.2
  have last : Date.last.pivot = 97466824 := by decide
  simp only [Date.pivot] at same last
  omega

theorem Expander.expand_fixedMonthDay_iff_lastDay :
    let x : Expander := ⟨Registry.defaults.run Registry.someChanges, none, CalendarSystem.civilId⟩
    x.registry.HasBuiltIns ∧
    (∃ pivot, CalendarSystem.julian.Overshoots lastDay 12 31 pivot ∧
      x.expand julianYearEnd lastDay "rule:year-end" =
        .error (.chronology (.pivotOutOfRange CalendarSystem.civilId pivot))) ∧
    ∃ found, x.expand julianYearEnd ⟨dayOf2008 0, dayOf2008 365, by decide⟩ "rule:year-end" =
      .ok found := by
  intro x
  have builtIns : x.registry.HasBuiltIns :=
    (Registry.Reachable.defaults.run Registry.someChanges).hasBuiltIns
  have ruled : julianYearEnd.rule = .fixedMonthDay 12 31 (some CalendarSystem.julianId) := rfl
  obtain ⟨near, -, failing, -⟩ :=
    expand_fixedMonthDay_iff builtIns ruled (b := .julian) rfl lastDay "rule:year-end"
  obtain ⟨-, -, -, safe⟩ := expand_fixedMonthDay_iff builtIns ruled (b := .julian) rfl
    ⟨dayOf2008 0, dayOf2008 365, by decide⟩ "rule:year-end"
  refine ⟨builtIns, ?_, safe (.inr (by decide))⟩
  cases outcome : x.expand julianYearEnd lastDay "rule:year-end" with
  | ok found => exact absurd overshoots_lastDay (near.mp ⟨found, outcome⟩ _)
  | error e =>
    obtain ⟨pivot, overshoots, rfl⟩ := failing e outcome
    exact ⟨pivot, overshoots, rfl⟩

/-- The end of the year is not in the range, but is not skipped either. -/
theorem Expander.expand_julianYearEnd_refused :
    ¬ ∀ x : Expander, x.registry.HasBuiltIns → ∀ (source : EventSource) (month day : UInt32)
      (named : Option String) (b : Registry.BuiltIn),
      source.rule = .fixedMonthDay month day named → named.getD x.defaultSystem = b.system.id →
      ∀ (range : DateRange) (provenance : String),
        ∃ found, x.expand source range provenance = .ok found := by
  intro claimed
  have builtIns : Registry.HasBuiltIns .defaults := Registry.Reachable.defaults.hasBuiltIns
  obtain ⟨found, expanded⟩ := claimed ⟨.defaults, none, CalendarSystem.civilId⟩ builtIns
    julianYearEnd 12 31 _ .julian rfl rfl lastDay "rule:year-end"
  have walked := expand_fixedMonthDay_eq_ok .defaults rfl expanded
  exact (foreignMonthDay_ok (b := .julian) builtIns (fun _ => trivial) walked).1 _
    overshoots_lastDay

end Holidays
