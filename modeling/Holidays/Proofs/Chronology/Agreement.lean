import Holidays.Proofs.Chronology.Words
import Holidays.Proofs.Chronology.YearWalk

namespace Holidays.Registry

inductive Change where
  | define (d : ChronologyDefinition)
  | reset

/-- A definition that is refused changes nothing. -/
def change (r : Registry) : Change → Registry
  | .define d => (r.enrollDefinition d).2
  | .reset => .defaults

def run (r : Registry) (changes : List Change) : Registry := changes.foldl change r

theorem Reachable.change {r : Registry} (h : r.Reachable) (step : Change) :
    (r.change step).Reachable := by
  cases step with
  | define d => exact h.enrollDefinition d
  | reset => exact .defaults

theorem Reachable.run {r : Registry} (h : r.Reachable) (changes : List Change) :
    (r.run changes).Reachable := by
  induction changes generalizing r with
  | nil => exact h
  | cons step changes ih => exact ih (h.change step)

section

variable {r : Registry} {a : WordArithmetic} {d d' e : SystemDate} {system target : String}
  {pivot : Int}

theorem get_eq_ok {id : String} {s : CalendarSystem} (h : r.get id = .ok s) : s.id = id := by
  unfold get at h
  split at h
  · cases h
  · next found =>
    cases h
    simpa using List.find?_some found

theorem system_of_ofPivot (h : r.ofPivot system pivot = .ok d) : d.system = system := by
  obtain ⟨s, got, -, named⟩ := ofPivot_eq_ok h
  exact named.trans (get_eq_ok got)

theorem system_of_ofPivotIn (h : r.ofPivotIn a system pivot = .ok d) : d.system = system := by
  obtain ⟨s, got, named⟩ := ofPivotIn_eq_ok_iff.mp h
  exact (CalendarSystem.system_of_ofPivotIn named).trans (get_eq_ok got)

theorem toPivot_eq_ok (h : r.toPivot d = .ok pivot) :
    ∃ s, r.get d.system = .ok s ∧ s.toPivot d.ymd = .ok pivot := bind_eq_ok_iff.mp h

theorem toPivotIn_of_ofPivotIn (h : r.ofPivotIn .checked system pivot = .ok d) :
    r.toPivotIn .checked d = .ok pivot := by
  obtain ⟨s, got, named⟩ := ofPivotIn_eq_ok_iff.mp h
  rw [← system_of_ofPivotIn h] at got
  rw [toPivotIn_of_get got]
  exact (CalendarSystem.checked_ofPivotIn named).2

theorem toPivotIn_inj (same : d.system = e.system) (hd : r.toPivotIn .checked d = .ok pivot)
    (he : r.toPivotIn .checked e = .ok pivot) : d = e := by
  obtain ⟨s, got, there⟩ := toPivot_eq_ok (checked_toPivotIn hd)
  obtain ⟨s', got', there'⟩ := toPivot_eq_ok (checked_toPivotIn he)
  rw [same, got'] at got
  cases got
  have day := CalendarSystem.toPivot_inj there there'
  cases d
  cases e
  simp_all

theorem convertIn_eq_ok (h : r.convertIn .checked d target = .ok d') :
    ∃ pivot, r.toPivotIn .checked d = .ok pivot ∧ r.toPivotIn .checked d' = .ok pivot ∧
      d'.system = target := by
  obtain ⟨pivot, there, back⟩ := bind_eq_ok_iff.mp h
  exact ⟨pivot, there, toPivotIn_of_ofPivotIn back, system_of_ofPivotIn back⟩

theorem convertIn_congr (same : r.toPivotIn a d = r.toPivotIn a e) (target : String) :
    r.convertIn a d target = r.convertIn a e target := by
  simp only [convertIn, same]

theorem hasDay_of_convertIn (h : r.convertIn .checked d target = .ok d') :
    ∃ s, r.get target = .ok s ∧ s.HasDay d'.ymd ∧ Fits32 d'.ymd.year := by
  obtain ⟨pivot, -, back⟩ := bind_eq_ok_iff.mp h
  obtain ⟨s, got, named⟩ := ofPivotIn_eq_ok_iff.mp back
  have found := (CalendarSystem.checked_ofPivotIn named).1
  exact ⟨s, got, (CalendarSystem.ofPivot?_spec found).1, CalendarSystem.fits_of_ofPivot? found⟩

theorem ofPivot_civil (civil : r.get CalendarSystem.civilId = .ok .gregorian) (pivot : Int) :
    r.ofPivot CalendarSystem.civilId pivot =
      match Date.ofPivot? pivot with
      | none => .error (.pivotOutOfRange CalendarSystem.civilId pivot)
      | some date => .ok (.civil date) := by
  rw [ofPivot_of_get civil, CalendarSystem.ofPivot?]
  cases Date.ofPivot? pivot <;> rfl

/-- Civil conversion is exact in words, since dates end long before the words do. -/
theorem ofPivotIn_civil (civil : r.get CalendarSystem.civilId = .ok .gregorian) (pivot : Int) :
    r.ofPivotIn a CalendarSystem.civilId pivot =
      inWords (r.ofPivot CalendarSystem.civilId pivot) := by
  rw [ofPivotIn_of_get civil, CalendarSystem.ofPivotIn, Civil.ofPivotIn_eq, ofPivot_of_get civil,
    CalendarSystem.ofPivot_eq]

theorem Reachable.toPivotIn_civil (h : r.Reachable) (date : Date) :
    r.toPivotIn a (.civil date) = .ok date.pivot := by
  rw [toPivotIn_of_get h.get_civil]
  simp [CalendarSystem.toPivotIn, SystemDate.civil, Date.ymd, Date.ofYmd?_self,
    Civil.pivotOfIn_eq]

theorem Reachable.ofPivot_pivot (h : r.Reachable) (date : Date) :
    r.ofPivot CalendarSystem.civilId date.pivot = .ok (.civil date) := by
  rw [ofPivot_civil h.get_civil, Date.ofPivot?_eq_some_iff.mpr rfl]

theorem toDate?_civil (date : Date) : (SystemDate.civil date).toDate? = some date :=
  Date.ofYmd?_self date

theorem eq_civil_of_toDate? {date : Date} (civil : d.toDate? = some date) : d = .civil date := by
  unfold SystemDate.toDate? at civil
  split at civil
  · next system =>
    obtain ⟨year, month, day⟩ := Date.ofYmd?_eq_some_iff.mp civil
    cases d
    simp_all [SystemDate.civil, SystemDate.isCivil, Date.ymd]
  · cases civil

/-- A date that is civil already is taken as it is; the way through the pivot gives the same. -/
theorem Reachable.toCivilIn_eq_convertIn (h : r.Reachable) (a : WordArithmetic) (d : SystemDate) :
    (r.toCivilIn a d).map SystemDate.civil = r.convertIn a d CalendarSystem.civilId := by
  unfold toCivilIn convertIn
  split
  · next date civil =>
    rw [eq_civil_of_toDate? civil, h.toPivotIn_civil]
    simp [bind, Except.bind, ofPivotIn_civil h.get_civil, h.ofPivot_pivot, Except.map]
  · cases r.toPivotIn a d with
    | error stop => rfl
    | ok pivot =>
      simp only [bind, Except.bind, ofPivotIn_civil h.get_civil, ofPivot_civil h.get_civil]
      cases Date.ofPivot? pivot with
      | none => rfl
      | some date => simp [toDate?_civil, Except.map]

theorem weekday_eq_weekdayOfPivot (date : Date) : date.weekday = weekdayOfPivot date.pivot := by
  unfold Date.weekday weekdayOfPivot Date.pivot
  rw [Weekday.ofMonday_eq_iff, Weekday.index_ofMonday]
  simp only [civilPivot]
  omega

theorem Reachable.pivot_of_toCivilIn (h : r.Reachable) {date : Date}
    (civil : r.toCivilIn a d = .ok date) : r.toPivotIn a d = .ok date.pivot := by
  have converted := h.toCivilIn_eq_convertIn a d
  rw [civil] at converted
  obtain ⟨pivot, there, back⟩ := bind_eq_ok_iff.mp converted.symm
  rw [ofPivotIn_civil h.get_civil, inWords_eq_ok_iff] at back
  rw [there, h.pivot_of_civil back (toDate?_civil date)]

end

/-- After any changes, conversions agree with each other, with the civil dates and with the days of
the week. Where one of two ways overflows, the other does on the same value; civil dates agree even
where results are wrapped around. -/
theorem run_conversions_agree (changes : List Change) (d : SystemDate) :
    (∀ target d', (defaults.run changes).convertIn .checked d target = .ok d' →
      (d'.system = target ∧ ∃ s, (defaults.run changes).get target = .ok s ∧ s.HasDay d'.ymd ∧
        Fits32 d'.ymd.year) ∧
      (∃ pivot, (defaults.run changes).toPivotIn .checked d = .ok pivot ∧
        (defaults.run changes).toPivotIn .checked d' = .ok pivot) ∧
      (∀ back, (defaults.run changes).convertIn .checked d' d.system = .ok back → back = d) ∧
      ∀ other, (defaults.run changes).convertIn .checked d' other =
        (defaults.run changes).convertIn .checked d other) ∧
    ∀ a, ((defaults.run changes).toCivilIn a d).map SystemDate.civil =
        (defaults.run changes).convertIn a d CalendarSystem.civilId ∧
      ∀ date, (defaults.run changes).toCivilIn a d = .ok date →
        ∃ pivot, (defaults.run changes).toPivotIn a d = .ok pivot ∧
          date.weekday = weekdayOfPivot pivot := by
  have reachable : (defaults.run changes).Reachable := Reachable.defaults.run changes
  generalize defaults.run changes = r at reachable
  refine ⟨?_, fun a => ⟨reachable.toCivilIn_eq_convertIn a d, ?_⟩⟩
  · intro target d' converted
    obtain ⟨pivot, there, here, system⟩ := convertIn_eq_ok converted
    refine ⟨⟨system, hasDay_of_convertIn converted⟩, ⟨pivot, there, here⟩, ?_, ?_⟩
    · intro back returned
      obtain ⟨pivot', here', there', own⟩ := convertIn_eq_ok returned
      rw [here] at here'
      cases here'
      exact toPivotIn_inj own there' there
    · intro other
      exact convertIn_congr (here.trans there.symm) other
  · intro date civil
    exact ⟨_, reachable.pivot_of_toCivilIn civil, weekday_eq_weekdayOfPivot date⟩

/-- The first definition is refused, since civil dates have a system. -/
def someChanges : List Change :=
  [.define { TableCalendar.tenDays with id := CalendarSystem.civilId }, .reset,
    .define TableCalendar.tenDays]

theorem run_someChanges : defaults.run someChanges =
    ⟨[.gregorian, .julian, .islamic, .table TableCalendar.tenDayCalendar]⟩ := by
  have civil : TableCalendar.ofDefinition
      { TableCalendar.tenDays with id := CalendarSystem.civilId } =
        .ok { TableCalendar.tenDayCalendar with id := CalendarSystem.civilId } :=
    TableCalendar.ofDefinition_eq_ok_of (by decide +kernel) (by decide) rfl rfl rfl rfl
      LeapRule.compile_everyFourth
  simp only [run, someChanges, List.foldl_cons, List.foldl_nil, change, enrollDefinition, civil,
    TableCalendar.ofDefinition_tenDays]
  rfl

theorem run_conversions_agree_christmas :
    (defaults.run someChanges).convertIn .checked ⟨CalendarSystem.julianId, ⟨1999, 12, 25⟩⟩
      "tenday" = .ok ⟨"tenday", ⟨1, 1, 7⟩⟩ ∧
    (∃ pivot,
      (defaults.run someChanges).toPivotIn .checked ⟨CalendarSystem.julianId, ⟨1999, 12, 25⟩⟩ =
        .ok pivot ∧
      (defaults.run someChanges).toPivotIn .checked ⟨"tenday", ⟨1, 1, 7⟩⟩ = .ok pivot) ∧
    ∀ other,
      (defaults.run someChanges).convertIn .checked ⟨"tenday", ⟨1, 1, 7⟩⟩ other =
        (defaults.run someChanges).convertIn .checked ⟨CalendarSystem.julianId, ⟨1999, 12, 25⟩⟩
          other := by
  have converted : (defaults.run someChanges).convertIn .checked
      ⟨CalendarSystem.julianId, ⟨1999, 12, 25⟩⟩ "tenday" = .ok ⟨"tenday", ⟨1, 1, 7⟩⟩ := by
    rw [run_someChanges]
    decide +kernel
  obtain ⟨-, pivots, -, onward⟩ := (run_conversions_agree someChanges _).1 _ _ converted
  exact ⟨converted, pivots, onward⟩

end Holidays.Registry
