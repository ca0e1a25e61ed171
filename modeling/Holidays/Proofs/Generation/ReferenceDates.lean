import Holidays.Proofs.Generation.RuleWindow

/-!
The dates that references have around a range. They ascend, and none of the range is missing while
the Julian years stay close to the civil ones of the same number; they drift apart by three days in
400 years, until a margin of one year is used up.
-/
namespace Holidays

namespace Easter

def orthodox (year : Int) : Int := Julian.pivotOf (julianDay year) - civilPivot

theorem orthodox_eq (year : Int) :
    orthodox year =
      365 * year + year / 4 - 286 + julianMoonDelay year + julianSundayDelay year := by
  rw [orthodox, pivotOf_julianDay, julianFullMoon, pivotOf_march, civilPivot]
  omega

theorem orthodox_lt {y z : Int} (h : y < z) : orthodox y < orthodox z := by
  have moon := julianMoonDelay_bounds y
  have sunday := julianSundayDelay_bounds y
  have moon' := julianMoonDelay_bounds z
  have sunday' := julianSundayDelay_bounds z
  rw [orthodox_eq, orthodox_eq]
  omega

/-- Up to here Easter comes before the second New Year after the start of its year. -/
theorem orthodox_lt_newYear {year : Int} (h : year ≤ 82409) :
    orthodox year < Civil.yearStart (year + 2) := by
  by_cases early : year ≤ 82199
  · have moon := julianMoonDelay_bounds year
    have sunday := julianSundayDelay_bounds year
    rw [orthodox_eq, Civil.yearStart]
    omega
  -- The latest Easters decide where that ends, so the last years are looked at one by one.
  · have each : ∀ n < 210, orthodox (82200 + (n : Nat)) < Civil.yearStart (82202 + (n : Nat)) := by
      decide +kernel
    have here := each (year - 82200).toNat (by omega)
    have same : 82200 + ((year - 82200).toNat : Int) = year := by omega
    have next : 82202 + ((year - 82200).toNat : Int) = year + 2 := by omega
    rwa [same, next] at here

theorem newYear_le_orthodox {year : Int} (h : -59169 ≤ year) :
    Civil.yearStart (year - 1) ≤ orthodox year := by
  by_cases late : -59100 ≤ year
  · have moon := julianMoonDelay_bounds year
    have sunday := julianSundayDelay_bounds year
    rw [orthodox_eq, Civil.yearStart]
    omega
  · have each : ∀ n < 69, Civil.yearStart (-59170 + (n : Nat)) ≤ orthodox (-59169 + (n : Nat)) := by
      decide +kernel
    have here := each (year + 59169).toNat (by omega)
    have same : -59169 + ((year + 59169).toNat : Int) = year := by omega
    have before : -59170 + ((year + 59169).toNat : Int) = year - 1 := by omega
    rwa [same, before] at here

end Easter

namespace EasterFormula

def easter? (f : EasterFormula) (year : Int) : Option Date :=
  match f with
  | .western => Easter.western? year
  | .orthodox => Date.ofNumber? (Easter.orthodox year)

theorem dateIn_eq {registry : Registry}
    (civil : registry.get CalendarSystem.civilId = .ok .gregorian)
    (julian : registry.get CalendarSystem.julianId = .ok .julian) (f : EasterFormula) (year : Int) :
    f.dateIn registry year = .ok (f.easter? year) := by
  cases f with
  | western => rfl
  | orthodox => exact Easter.dateIn_orthodox civil julian year

theorem easter?_lt {f : EasterFormula} {y z : Int} {a b : Date} (earlier : y < z)
    (ha : f.easter? y = some a) (hb : f.easter? z = some b) : a < b := by
  cases f with
  | western =>
    have here := year_of_western? ha
    have there := year_of_western? hb
    by_cases later : b ≤ a
    · have := Date.year_mono later
      omega
    · exact Int.not_le.mp later
  | orthodox =>
    simp only [easter?, Date.ofNumber?_eq_some_iff] at ha hb
    show a.number < b.number
    rw [ha, hb]
    exact Easter.orthodox_lt earlier

/-- Where the Julian years have not drifted too far, a date lies in the civil year with the number
of its own or in one next to it. -/
theorem year_of_easter? {f : EasterFormula} {year : Int} {d : Date} (h : f.easter? year = some d)
    (near : f = .western ∨ -59171 ≤ d.year ∧ d.year ≤ 82411) :
    d.year - 1 ≤ year ∧ year ≤ d.year + 1 := by
  cases f with
  | western =>
    have same := year_of_western? h
    omega
  | orthodox =>
    obtain ⟨low, high⟩ := near.resolve_left (by decide)
    rw [easter?, Date.ofNumber?_eq_some_iff] at h
    have bounds : Civil.yearStart d.year ≤ d.number ∧ d.number < Civil.yearStart (d.year + 1) :=
      Civil.yearOf_bounds d.number
    constructor
    · by_cases behind : year < d.year - 1
      · have := Easter.orthodox_lt_newYear (show year ≤ 82409 by omega)
        have := Civil.yearStart_mono (y := year + 2) (z := d.year) (by omega)
        omega
      · omega
    · by_cases ahead : d.year + 1 < year
      · have := Easter.newYear_le_orthodox (show -59169 ≤ year by omega)
        have := Civil.yearStart_mono (y := d.year + 1) (z := year - 1) (by omega)
        omega
      · omega

end EasterFormula

namespace ReferenceDates

variable {registry : Registry} (civil : registry.get CalendarSystem.civilId = .ok .gregorian)
  (julian : registry.get CalendarSystem.julianId = .ok .julian)

include civil julian

theorem ofReference_eq (range : DateRange) {r : Reference} {f : EasterFormula}
    (tagged : EasterFormula.ofTag? r.formula = some f) :
    ofReference registry range r = .ok (r.key, (yearsAround range).filterMap f.easter?) := by
  have each : ∀ year ∈ yearsAround range,
      ∃ found, chronologically (f.dateIn registry year) = .ok found := by
    intro year _
    exact ⟨_, chronologically_eq_ok_iff.mpr (f.dateIn_eq civil julian year)⟩
  obtain ⟨found, walked⟩ := exists_mapM_eq_ok each
  rw [ofReference, tagged]
  apply bind_eq_ok_iff.mpr
  refine ⟨found, walked, ?_⟩
  rw [filterMap_of_mapM walked]
  congr 3
  funext year
  rw [f.dateIn_eq civil julian]
  rfl

theorem exists_ofReferences (range : DateRange) {references : List Reference}
    (named : ∀ r ∈ references, ∃ f, EasterFormula.ofTag? r.formula = some f) :
    ∃ table, ofReferences registry range references = .ok table := by
  have each : ∀ r ∈ references, ∃ entry, ofReference registry range r = .ok entry := by
    intro r held
    obtain ⟨f, tagged⟩ := named r held
    exact ⟨_, ofReference_eq civil julian range tagged⟩
  obtain ⟨entries, walked⟩ := exists_mapM_eq_ok each
  exact ⟨_, bind_eq_ok_iff.mpr ⟨entries, walked, rfl⟩⟩

theorem datesOf?_of_mem {range : DateRange} {references : List Reference} {table : ReferenceDates}
    (dated : ofReferences registry range references = .ok table)
    (distinct : (references.map Reference.key).Nodup) {r : Reference} (held : r ∈ references)
    {f : EasterFormula} (tagged : EasterFormula.ofTag? r.formula = some f) :
    table.datesOf? r.key = some ((yearsAround range).filterMap f.easter?) := by
  have only : (references.filter fun r' => r'.key = r.key).getLast? = some r := by
    rw [← Keyed.find?_putAll_nil Reference.key, Keyed.putAll_of_nodup (by simpa using distinct),
      List.nil_append, Keyed.find?_of_mem distinct held]
  have same : easterOf registry r = f.easter? := by
    funext year
    simp [easterOf, tagged, f.dateIn_eq civil julian, Except.toOption]
  rw [datesOf?_ofReferences dated, only, Option.map_some, same]

omit civil julian

theorem easters_pairwise (f : EasterFormula) (range : DateRange) :
    ((yearsAround range).filterMap f.easter?).Pairwise (· < ·) := by
  apply (span_pairwise _ _).filterMap
  intro y z earlier a ha b hb
  exact EasterFormula.easter?_lt earlier ha hb

theorem mem_easters {f : EasterFormula} {range : DateRange} {d : Date} :
    d ∈ (yearsAround range).filterMap f.easter? ↔ ∃ year,
      (range.first.year - 1 ≤ year ∧ year ≤ range.last.year + 1) ∧ f.easter? year = some d := by
  simp [yearsAround, mem_span]

include civil julian

/-- References with the built-in calendars are dated by the years from the one before the range to
the one after it, in ascending order. No date of the range is missing by the western formula, nor by
the Julian one in the civil years -59171 to 82411. -/
theorem ofReferences_dates (range : DateRange) {references : List Reference}
    (distinct : (references.map Reference.key).Nodup)
    (named : ∀ r ∈ references, ∃ f, EasterFormula.ofTag? r.formula = some f) :
    ∃ table, ofReferences registry range references = .ok table ∧
      ∀ r ∈ references, ∀ f, EasterFormula.ofTag? r.formula = some f →
        ∃ dates, table.datesOf? r.key = some dates ∧ dates.Pairwise (· < ·) ∧
          (∀ d, d ∈ dates ↔ ∃ year, (range.first.year - 1 ≤ year ∧ year ≤ range.last.year + 1) ∧
            f.dateIn registry year = .ok (some d)) ∧
          ((f = .western ∨ -59171 ≤ range.first.year ∧ range.last.year ≤ 82411) →
            ∀ year d, f.dateIn registry year = .ok (some d) → range.Contains d → d ∈ dates) := by
  obtain ⟨table, dated⟩ := exists_ofReferences civil julian range named
  refine ⟨table, dated, ?_⟩
  intro r held f tagged
  refine ⟨_, datesOf?_of_mem civil julian dated distinct held tagged, easters_pairwise f range,
    ?_, ?_⟩
  · intro d
    simp only [f.dateIn_eq civil julian, Except.ok.injEq]
    exact mem_easters
  · intro near year d there inside
    rw [f.dateIn_eq civil julian, Except.ok.injEq] at there
    have first := Date.year_mono inside.1
    have last := Date.year_mono inside.2
    have beside := EasterFormula.year_of_easter? there (near.imp_right fun h => by omega)
    exact mem_easters.mpr ⟨year, by omega, there⟩

omit civil julian

def easterAndPascha : List Reference :=
  [⟨"easter", "EASTER_WESTERN"⟩, ⟨"pascha", "EASTER_ORTHODOX"⟩]

theorem easterAndPascha_named :
    ∀ r ∈ easterAndPascha, ∃ f, EasterFormula.ofTag? r.formula = some f := by
  simp only [easterAndPascha, List.forall_mem_cons]
  exact ⟨⟨.western, rfl⟩, ⟨.orthodox, rfl⟩, by simp⟩

/-- +82410-12-12, the Easter of the Julian year 82409. -/
def lastEaster : Date := (Date.ofNumber? 30099615).getD .first

/-- The years of this Easter differ already. -/
theorem ofReferences_dates_late :
    ∃ table, ofReferences .defaults ⟨lastEaster, lastEaster, Int.le_refl _⟩ easterAndPascha =
        .ok table ∧
      ∃ dates, table.datesOf? "pascha" = some dates ∧ dates.Pairwise (· < ·) ∧
        lastEaster ∈ dates := by
  have reachable : Registry.Reachable .defaults := .defaults
  obtain ⟨table, dated, each⟩ := ofReferences_dates reachable.get_civil reachable.get_julian
    ⟨lastEaster, lastEaster, Int.le_refl _⟩ (by decide) easterAndPascha_named
  obtain ⟨dates, found, ascending, -, complete⟩ := each ⟨"pascha", "EASTER_ORTHODOX"⟩
    (by decide) .orthodox rfl
  refine ⟨table, dated, dates, found, ascending, ?_⟩
  have here : EasterFormula.orthodox.easter? 82409 = some lastEaster := by decide
  exact complete (Or.inr (by decide)) 82409 lastEaster
    (by rw [EasterFormula.dateIn_eq reachable.get_civil reachable.get_julian, here])
    ⟨Int.le_refl _, Int.le_refl _⟩

/-- +82412-01-01. The Easter of the Julian year 82410 is celebrated on it. -/
def missedEaster : Date := (Date.ofNumber? 30100000).getD .first

/-- A year later it is dated by none of the years around its day, the first of which is 82411. -/
theorem ofReferences_dates_missed :
    ¬ ∀ (registry : Registry), registry.Reachable → ∀ (range : DateRange)
      (references : List Reference), (references.map Reference.key).Nodup →
      (∀ r ∈ references, ∃ f, EasterFormula.ofTag? r.formula = some f) →
      ∃ table, ofReferences registry range references = .ok table ∧
        ∀ r ∈ references, ∀ f, EasterFormula.ofTag? r.formula = some f →
          ∃ dates, table.datesOf? r.key = some dates ∧ dates.Pairwise (· < ·) ∧
            ∀ year d, Fits32 year → f.dateIn registry year = .ok (some d) → range.Contains d →
              d ∈ dates := by
  intro given
  have reachable : Registry.Reachable .defaults := .defaults
  have distinct : (easterAndPascha.map Reference.key).Nodup := by decide
  have held : ⟨"pascha", "EASTER_ORTHODOX"⟩ ∈ easterAndPascha := by decide
  obtain ⟨table, dated, each⟩ := given .defaults reachable
    ⟨missedEaster, missedEaster, Int.le_refl _⟩ easterAndPascha distinct easterAndPascha_named
  obtain ⟨dates, found, -, complete⟩ := each _ held .orthodox rfl
  have here : EasterFormula.orthodox.easter? 82410 = some missedEaster := by decide
  have among := complete 82410 missedEaster (by decide)
    (by rw [EasterFormula.dateIn_eq reachable.get_civil reachable.get_julian, here])
    ⟨Int.le_refl _, Int.le_refl _⟩
  rw [datesOf?_of_mem reachable.get_civil reachable.get_julian dated distinct held rfl,
    Option.some.injEq] at found
  rw [← found, mem_easters] at among
  obtain ⟨year, around, there⟩ := among
  have start : missedEaster.year = 82412 := by decide
  have later : 82410 < year := by simp only [start] at around; omega
  exact absurd (EasterFormula.easter?_lt later here there) (Int.lt_irrefl _)

end ReferenceDates

end Holidays
