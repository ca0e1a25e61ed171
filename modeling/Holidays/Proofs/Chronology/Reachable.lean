import Holidays.Proofs.Chronology.YearStart

namespace Holidays.Registry

/-- What accepted definitions make of the default registry. A refused one leaves it as it is. -/
inductive Reachable : Registry → Prop where
  | defaults : Reachable .defaults
  | define {r next : Registry} {d : ChronologyDefinition} :
      Reachable r → r.define d = .ok next → Reachable next

theorem register_eq_ok {r next : Registry} {s : CalendarSystem} :
    r.register s = .ok next ↔ s.id ∉ r.ids ∧ next = ⟨r.systems ++ [s]⟩ := by
  simp only [register, enroll, contains, List.contains_iff_mem]
  split <;> simp_all [succeeded, eq_comm]

theorem define_of_ofDefinition {r : Registry} {d : ChronologyDefinition} {c : TableCalendar}
    (built : TableCalendar.ofDefinition d = .ok c) : r.define d = r.register (.table c) := by
  simp only [define, enrollDefinition, built, register]

theorem define_eq_ok {r next : Registry} {d : ChronologyDefinition} :
    r.define d = .ok next ↔ ∃ c, TableCalendar.ofDefinition d = .ok c ∧ c.id ∉ r.ids ∧
      next = ⟨r.systems ++ [.table c]⟩ := by
  cases built : TableCalendar.ofDefinition d with
  | error e => simp [define, enrollDefinition, built, succeeded]
  | ok c => simp [define_of_ofDefinition built, register_eq_ok, CalendarSystem.id]

theorem enroll_eq (r : Registry) (s : CalendarSystem) :
    r.enroll s = match r.register s with
      | .error e => (.error e, r)
      | .ok next => (.ok (), next) := by
  simp only [register, enroll]
  split <;> rfl

theorem enrollDefinition_eq (r : Registry) (d : ChronologyDefinition) :
    r.enrollDefinition d = match r.define d with
      | .error e => (.error e, r)
      | .ok next => (.ok (), next) := by
  cases built : TableCalendar.ofDefinition d with
  | error e => simp only [define, enrollDefinition, built, succeeded]
  | ok c =>
    rw [define_of_ofDefinition built, ← enroll_eq]
    simp only [enrollDefinition, built]

theorem Reachable.enrollDefinition {r : Registry} (h : r.Reachable) (d : ChronologyDefinition) :
    (r.enrollDefinition d).2.Reachable := by
  rw [enrollDefinition_eq]
  cases defined : r.define d with
  | error e => exact h
  | ok next => exact .define h defined

theorem Reachable.systems_eq {r : Registry} (h : r.Reachable) :
    ∃ tables : List TableCalendar,
      r.systems = [.gregorian, .julian, .islamic] ++ tables.map .table := by
  induction h with
  | defaults => exact ⟨[], rfl⟩
  | define _ defined ih =>
    obtain ⟨tables, before⟩ := ih
    obtain ⟨c, -, -, rfl⟩ := define_eq_ok.mp defined
    exact ⟨tables ++ [c], by simp [before]⟩

theorem Reachable.get_civil {r : Registry} (h : r.Reachable) :
    r.get CalendarSystem.civilId = .ok .gregorian := by
  obtain ⟨tables, shape⟩ := h.systems_eq
  simp [get, find?, shape, CalendarSystem.id]

theorem Reachable.get_julian {r : Registry} (h : r.Reachable) :
    r.get CalendarSystem.julianId = .ok .julian := by
  obtain ⟨tables, shape⟩ := h.systems_eq
  have other : ¬ CalendarSystem.civilId = CalendarSystem.julianId := by decide
  simp [get, find?, shape, CalendarSystem.id, other]

theorem Reachable.toPivot_civil {r : Registry} (h : r.Reachable) (d : Date) :
    r.toPivot (.civil d) = .ok d.pivot := by
  simp [toPivot, SystemDate.civil, h.get_civil, CalendarSystem.toPivot, Date.ymd, Date.ofYmd?_self,
    bind, Except.bind]

theorem ofPivot_of_get {r : Registry} {system : String} {s : CalendarSystem}
    (got : r.get system = .ok s) (pivot : Int) :
    r.ofPivot system pivot = SystemDate.signed s.id pivot (s.ofPivot? pivot) := by
  rw [← s.ofPivot_eq]
  simp [ofPivot, got, bind, Except.bind]

theorem ofPivot_eq_ok {r : Registry} {system : String} {pivot : Int} {d : SystemDate}
    (h : r.ofPivot system pivot = .ok d) :
    ∃ s, r.get system = .ok s ∧ s.ofPivot? pivot = some d.ymd ∧ d.system = s.id := by
  obtain ⟨s, got, -⟩ := bind_eq_ok_iff.mp h
  rw [ofPivot_of_get got] at h
  cases found : s.ofPivot? pivot with
  | none => simp [SystemDate.signed, found] at h
  | some ymd =>
    rw [found] at h
    cases h
    exact ⟨s, got, found, rfl⟩

theorem Reachable.ofCivil_eq_ok_iff {r : Registry} (h : r.Reachable) {system : String}
    {s : CalendarSystem} (got : r.get system = .ok s) {d : Date} {e : SystemDate} :
    r.ofCivil d system = .ok e ↔ s.ofPivot? d.pivot = some e.ymd ∧ e.system = s.id := by
  constructor
  · intro converted
    obtain ⟨pivot, there, back⟩ := bind_eq_ok_iff.mp converted
    rw [h.toPivot_civil] at there
    cases there
    obtain ⟨s', got', found, named⟩ := ofPivot_eq_ok back
    rw [got] at got'
    cases got'
    exact ⟨found, named⟩
  · rintro ⟨found, named⟩
    apply bind_eq_ok_iff.mpr
    refine ⟨d.pivot, h.toPivot_civil d, ?_⟩
    rw [ofPivot_of_get got, found, SystemDate.signed, ← named]

theorem Reachable.pivot_of_civil {r : Registry} (h : r.Reachable) {pivot : Int} {d : SystemDate}
    {date : Date} (converted : r.ofPivot CalendarSystem.civilId pivot = .ok d)
    (civil : d.toDate? = some date) : date.pivot = pivot := by
  obtain ⟨s, got, found, -⟩ := ofPivot_eq_ok converted
  rw [h.get_civil] at got
  cases got
  obtain ⟨e, reached, ymd⟩ := Option.map_eq_some_iff.mp found
  unfold SystemDate.toDate? at civil
  split at civil
  · rw [← ymd, Date.ymd, Date.ofYmd?_self] at civil
    cases civil
    exact Date.ofPivot?_eq_some_iff.mp reached
  · cases civil

end Holidays.Registry
