import Holidays.Proofs.Generation.Window

/-!
The calendar systems that generation looks up. Those that a specification names are checked before
it is expanded. The civil system, through which the days of every other one become dates, and the
Julian one, which dates an Easter, are looked up without being named, and nothing checks them.
-/
namespace Holidays

namespace Registry

inductive Extended : Registry → Prop where
  | empty : Extended .empty
  | defaults : Extended .defaults
  | define {r next : Registry} {d : ChronologyDefinition} :
      Extended r → r.define d = .ok next → Extended next

variable {r : Registry}

theorem find?_eq_none_iff {id : String} : r.find? id = none ↔ r.contains id = false := by
  simp only [find?, List.find?_eq_none, contains, ids]
  grind

theorem get_eq_error_iff {id : String} {e : ChronologyError} :
    r.get id = .error e ↔ e = .unknownSystem id ∧ r.contains id = false := by
  rw [← find?_eq_none_iff, get]
  split
  · next missing => simp [missing, eq_comm]
  · next s found => simp [found]

theorem contains_of_get {id : String} {s : CalendarSystem} (got : r.get id = .ok s) :
    r.contains id = true := by
  cases held : r.contains id with
  | true => rfl
  | false =>
    rw [get_eq_error_iff.mpr ⟨rfl, held⟩] at got
    cases got

theorem toPivot_unknown {d : SystemDate} {id : String}
    (h : r.toPivot d = .error (.unknownSystem id)) : id = d.system ∧ r.contains id = false := by
  rcases bind_eq_error_iff.mp h with missing | ⟨s, -, failed⟩
  · obtain ⟨same, absent⟩ := get_eq_error_iff.mp missing
    cases same
    exact ⟨rfl, absent⟩
  · cases CalendarSystem.toPivot_eq_error failed

theorem ofPivot_unknown {system : String} {pivot : Int} {id : String}
    (h : r.ofPivot system pivot = .error (.unknownSystem id)) :
    id = system ∧ r.contains id = false := by
  rcases bind_eq_error_iff.mp h with missing | ⟨s, -, failed⟩
  · obtain ⟨same, absent⟩ := get_eq_error_iff.mp missing
    cases same
    exact ⟨rfl, absent⟩
  · rw [s.ofPivot_eq] at failed
    unfold SystemDate.signed at failed
    split at failed <;> cases failed

theorem ofCivil_unknown {d : Date} {system id : String}
    (h : r.ofCivil d system = .error (.unknownSystem id)) :
    (id = CalendarSystem.civilId ∨ id = system) ∧ r.contains id = false := by
  rcases bind_eq_error_iff.mp h with there | ⟨pivot, -, back⟩
  · obtain ⟨same, absent⟩ := toPivot_unknown there
    exact ⟨.inl same, absent⟩
  · obtain ⟨same, absent⟩ := ofPivot_unknown back
    exact ⟨.inr same, absent⟩

theorem toCivil_unknown {d : SystemDate} {id : String}
    (h : r.toCivil d = .error (.unknownSystem id)) :
    (id = d.system ∨ id = CalendarSystem.civilId) ∧ r.contains id = false := by
  unfold toCivil at h
  split at h
  · cases h
  · rcases bind_eq_error_iff.mp h with there | ⟨pivot, -, rest⟩
    · obtain ⟨same, absent⟩ := toPivot_unknown there
      exact ⟨.inl same, absent⟩
    · rcases bind_eq_error_iff.mp rest with back | ⟨civil, -, undated⟩
      · obtain ⟨same, absent⟩ := ofPivot_unknown back
        exact ⟨.inr same, absent⟩
      · split at undated <;> cases undated

theorem toCivil_known {d : SystemDate} (foreign : d.system ≠ CalendarSystem.civilId)
    (h : (∃ date, r.toCivil d = .ok date) ∨ ∃ id pivot,
      r.toCivil d = .error (.pivotOutOfRange id pivot)) :
    r.contains d.system = true ∧ r.contains CalendarSystem.civilId = true := by
  have other : d.toDate? = none := if_neg (by simpa [SystemDate.isCivil] using foreign)
  simp only [toCivil, other] at h
  cases source : r.get d.system with
  | error e =>
    obtain ⟨rfl, -⟩ := get_eq_error_iff.mp source
    simp [toPivot, source, bind, Except.bind] at h
  | ok s =>
    refine ⟨contains_of_get source, ?_⟩
    cases target : r.get CalendarSystem.civilId with
    | ok s' => exact contains_of_get target
    | error e =>
      obtain ⟨rfl, -⟩ := get_eq_error_iff.mp target
      cases there : s.toPivot d.ymd with
      | ok pivot => simp [toPivot, ofPivot, source, target, there, bind, Except.bind] at h
      | error e =>
        obtain rfl := CalendarSystem.toPivot_eq_error there
        simp [toPivot, source, there, bind, Except.bind] at h

end Registry

theorem chronologically_eq_error_iff {α : Type} {x : Except ChronologyError α}
    {e : ChronologyError} : chronologically x = .error (.chronology e) ↔ x = .error e := by
  cases x <;> simp [chronologically]

namespace Specification

/-- The systems that generation looks up for a specification that does not name them. -/
inductive Reaches (s : Specification) : String → Prop where
  /-- The ends of the range become days of the rule's system, and its days become dates. -/
  | foreignDay {source : EventSource} (held : source ∈ s.sources) {month day : UInt32}
      {named : Option String} (ruled : source.rule = .fixedMonthDay month day named)
      (foreign : named.getD s.system ≠ CalendarSystem.civilId) : Reaches s CalendarSystem.civilId
  | easter {r : Reference} (held : r ∈ s.references)
      (tagged : EasterFormula.ofTag? r.formula = some .orthodox) : Reaches s CalendarSystem.julianId
  | easterDate {r : Reference} (held : r ∈ s.references)
      (tagged : EasterFormula.ofTag? r.formula = some .orthodox) : Reaches s CalendarSystem.civilId

end Specification

theorem EasterFormula.dateIn_unknown {f : EasterFormula} {registry : Registry} {year : Int}
    {id : String} (h : f.dateIn registry year = .error (.unknownSystem id)) :
    f = .orthodox ∧ (id = CalendarSystem.julianId ∨ id = CalendarSystem.civilId) ∧
      registry.contains id = false := by
  cases f with
  | western => cases h
  | orthodox =>
    refine ⟨rfl, ?_⟩
    simp only [dateIn] at h
    split at h
    · cases h
    · cases h
    · next failed =>
      cases h
      exact Registry.toCivil_unknown failed

theorem EasterFormula.dateIn_known {registry : Registry} {year : Int} {found : Option Date}
    (h : EasterFormula.orthodox.dateIn registry year = .ok found) :
    registry.contains CalendarSystem.julianId = true ∧
      registry.contains CalendarSystem.civilId = true := by
  have foreign : CalendarSystem.julianId ≠ CalendarSystem.civilId := by decide
  simp only [dateIn] at h
  split at h
  · next date converted => exact Registry.toCivil_known foreign (.inl ⟨date, converted⟩)
  · next id pivot beyond => exact Registry.toCivil_known foreign (.inr ⟨id, pivot, beyond⟩)
  · cases h

namespace ReferenceDates

variable {registry : Registry} {range : DateRange} {references : List Reference}

theorem ofReferences_unknown {id : String}
    (h : ofReferences registry range references = .error (.chronology (.unknownSystem id))) :
    (∃ r ∈ references, EasterFormula.ofTag? r.formula = some .orthodox) ∧
      (id = CalendarSystem.julianId ∨ id = CalendarSystem.civilId) ∧
      registry.contains id = false := by
  rcases bind_eq_error_iff.mp h with failed | ⟨entries, -, done⟩
  · obtain ⟨r, held, failing⟩ := exists_error_of_mapM failed
    unfold ofReference at failing
    split at failing
    · cases failing
    · next formula tagged =>
      rcases bind_eq_error_iff.mp failing with walked | ⟨dates, -, done⟩
      · obtain ⟨year, -, undated⟩ := exists_error_of_mapM walked
        obtain ⟨rfl, reached⟩ :=
          EasterFormula.dateIn_unknown (chronologically_eq_error_iff.mp undated)
        exact ⟨⟨r, held, tagged⟩, reached⟩
      · cases done
  · cases done

theorem year_mem_yearsAround (range : DateRange) : range.first.year ∈ yearsAround range := by
  have ordered := Date.year_mono range.ordered
  rw [yearsAround, mem_span]
  omega

theorem ofReferences_known {table : ReferenceDates}
    (h : ofReferences registry range references = .ok table) {r : Reference} (held : r ∈ references)
    (tagged : EasterFormula.ofTag? r.formula = some .orthodox) :
    registry.contains CalendarSystem.julianId = true ∧
      registry.contains CalendarSystem.civilId = true := by
  obtain ⟨entries, each, -⟩ := bind_eq_ok_iff.mp h
  obtain ⟨entry, -, one⟩ := exists_ok_of_mapM each held
  simp only [ofReference, tagged] at one
  obtain ⟨dates, walked, -⟩ := bind_eq_ok_iff.mp one
  obtain ⟨found, -, dated⟩ := exists_ok_of_mapM walked (year_mem_yearsAround range)
  exact EasterFormula.dateIn_known (chronologically_eq_ok_iff.mp dated)

end ReferenceDates

namespace Expander

variable {x : Expander} {range : DateRange}

theorem foreignMonthDay_unknown {month day : Nat} {system id : String}
    (h : x.foreignMonthDay month day system range = .error (.chronology (.unknownSystem id))) :
    (id = system ∨ id = CalendarSystem.civilId) ∧ x.registry.contains id = false := by
  simp only [foreignMonthDay, bind_eq_error_iff, chronologically_eq_error_iff,
    chronologically_eq_ok_iff] at h
  rcases h with missing | ⟨s, -, low | ⟨first, -, high | ⟨last, -, walked | ⟨found, -, done⟩⟩⟩⟩
  · obtain ⟨same, absent⟩ := Registry.get_eq_error_iff.mp missing
    cases same
    exact ⟨.inl rfl, absent⟩
  · obtain ⟨same, absent⟩ := Registry.ofCivil_unknown low
    exact ⟨same.symm, absent⟩
  · obtain ⟨same, absent⟩ := Registry.ofCivil_unknown high
    exact ⟨same.symm, absent⟩
  · obtain ⟨year, -, failed⟩ := exists_error_of_mapM walked
    split at failed
    · rw [chronologically_eq_error_iff, bind_eq_error_iff] at failed
      rcases failed with there | ⟨pivot, -, rest⟩
      · cases CalendarSystem.toPivot_eq_error there
      · rcases bind_eq_error_iff.mp rest with back | ⟨civil, -, done⟩
        · obtain ⟨same, absent⟩ := Registry.ofPivot_unknown back
          exact ⟨.inr same, absent⟩
        · cases done
    · cases failed
  · cases done

theorem foreignMonthDay_known {month day : Nat} {system : String} {dates : List Date}
    (h : x.foreignMonthDay month day system range = .ok dates) :
    x.registry.contains CalendarSystem.civilId = true := by
  obtain ⟨s, first, last, -, low, -, -⟩ := foreignMonthDay_eq_ok h
  obtain ⟨pivot, there, -⟩ := bind_eq_ok_iff.mp low
  obtain ⟨civil, got, -⟩ := Registry.toPivot_eq_ok there
  exact Registry.contains_of_get got

/-- Of the four kinds of rule only a month and day of another system looks systems up. -/
theorem dates_unknown {source : EventSource} {id : String}
    (h : x.dates source range = .error (.chronology (.unknownSystem id))) :
    ∃ month day named, source.rule = .fixedMonthDay month day named ∧
      named.getD x.defaultSystem ≠ CalendarSystem.civilId ∧
      (id = named.getD x.defaultSystem ∨ id = CalendarSystem.civilId) ∧
      x.registry.contains id = false := by
  unfold dates at h
  cases ruled : source.rule with
  | explicitDates ds => simp [ruled] at h
  | nthWeekday month weekday nth => simp [ruled] at h
  | fixedMonthDay month day named =>
    simp only [ruled] at h
    rcases bind_eq_error_iff.mp h with failed | ⟨dates, -, done⟩
    · unfold fixedMonthDay at failed
      split at failed
      · cases failed
      · next foreign =>
        exact ⟨month, day, named, rfl, foreign, foreignMonthDay_unknown failed⟩
    · cases done
  | relative reference anchor days weekday =>
    simp only [ruled] at h
    rcases bind_eq_error_iff.mp h with failed | ⟨offset, -, rest⟩
    · unfold Offset.select at failed
      split at failed
      · cases failed
      · split at failed <;> cases failed
      · cases failed
    · rcases bind_eq_error_iff.mp rest with failed | ⟨dates, -, done⟩
      · unfold anchors at failed
        split at failed
        · split at failed
          · cases failed
          · split at failed <;> cases failed
        · cases failed
        · cases failed
      · cases done

end Expander

namespace Specification

variable {s : Specification} {registry : Registry}

theorem validate_eq_ok_iff :
    s.validate registry = .ok () ↔ ∀ id ∈ s.systems, registry.contains id = true := by
  unfold validate
  split
  · next id found =>
    have absent := List.find?_some found
    have named := List.mem_of_find?_eq_some found
    simp only [reduceCtorEq, false_iff]
    intro all
    simp [all id named] at absent
  · next missing =>
    simpa using missing

theorem mem_systems {source : EventSource} (held : source ∈ s.sources) {month day : UInt32}
    {named : Option String} (ruled : source.rule = .fixedMonthDay month day named) :
    named.getD s.system ∈ s.systems := by
  cases named with
  | none => exact List.mem_cons_self
  | some system =>
    apply List.mem_cons_of_mem
    exact List.mem_filterMap.mpr ⟨source, held, by rw [ruled]; rfl⟩

theorem expand_unknown (valid : s.validate registry = .ok ()) {range : DateRange} {id : String}
    (h : s.expand registry range = .error (.chronology (.unknownSystem id))) :
    s.Reaches id ∧ registry.contains id = false := by
  rcases bind_eq_error_iff.mp h with undated | ⟨table, -, rest⟩
  · obtain ⟨⟨r, held, tagged⟩, rfl | rfl, absent⟩ := ReferenceDates.ofReferences_unknown undated
    · exact ⟨.easter held tagged, absent⟩
    · exact ⟨.easterDate held tagged, absent⟩
  · rcases bind_eq_error_iff.mp rest with failed | ⟨lists, -, done⟩
    · obtain ⟨source, held, failing⟩ := exists_error_of_mapM failed
      rcases bind_eq_error_iff.mp failing with expanded | ⟨os, -, done⟩
      · rcases bind_eq_error_iff.mp expanded with undated | ⟨dates, -, done⟩
        · obtain ⟨month, day, named, ruled, foreign, looked, absent⟩ :=
            Expander.dates_unknown undated
          rcases looked with rfl | rfl
          -- The rule's own system is checked, so only the civil one can be missing.
          · rw [validate_eq_ok_iff.mp valid _ (mem_systems held ruled)] at absent
            cases absent
          · exact ⟨.foreignDay held ruled foreign, absent⟩
        · cases done
      · cases done
    · cases done

theorem expand_known {range : DateRange} {os : List Occurrence}
    (h : s.expand registry range = .ok os) {id : String} (reached : s.Reaches id) :
    registry.contains id = true := by
  obtain ⟨table, lists, dated, walked, -⟩ := expand_eq_ok_iff.mp h
  cases reached with
  | easter held tagged => exact (ReferenceDates.ofReferences_known dated held tagged).1
  | easterDate held tagged => exact (ReferenceDates.ofReferences_known dated held tagged).2
  | foreignDay held ruled foreign =>
    obtain ⟨_, -, expanded⟩ := exists_ok_of_mapM walked held
    obtain ⟨_, listed, -⟩ := bind_eq_ok_iff.mp expanded
    obtain ⟨_, named, -⟩ := bind_eq_ok_iff.mp listed
    simp only [Expander.dates, ruled] at named
    obtain ⟨_, fixed, -⟩ := bind_eq_ok_iff.mp named
    rw [Expander.fixedMonthDay, if_neg foreign] at fixed
    exact Expander.foreignMonthDay_known fixed

theorem Reaches.contains {id : String} (reached : s.Reaches id) (reachable : registry.Reachable) :
    registry.contains id = true := by
  cases reached with
  | easter => exact Registry.contains_of_get reachable.get_julian
  | easterDate | foreignDay => exact Registry.contains_of_get reachable.get_civil

/-- Once a specification has passed the check, only a system that it reaches without naming it can
be missed, and generation does not return where one is missing. In a registry that grew from the
defaults none is. -/
theorem generate_reaches (valid : s.validate registry = .ok ()) (first last : Date) :
    (∀ id, s.generate registry first last = .error (.chronology (.unknownSystem id)) →
      s.Reaches id ∧ registry.contains id = false) ∧
    (∀ events, s.generate registry first last = .ok events →
      ∀ id, s.Reaches id → registry.contains id = true) ∧
    (registry.Reachable →
      ∀ id, s.generate registry first last ≠ .error (.chronology (.unknownSystem id))) := by
  by_cases ordered : first ≤ last
  · have missed {id : String}
        (failed : s.generate registry first last = .error (.chronology (.unknownSystem id))) :
        s.Reaches id ∧ registry.contains id = false := by
      rcases (generate_eq_error_iff ordered).mp failed with invalid | ⟨-, unexpanded⟩
      · rw [valid] at invalid
        cases invalid
      · exact expand_unknown valid unexpanded
    refine ⟨fun _ failed => missed failed, ?_, ?_⟩
    · intro events generated id reached
      obtain ⟨-, os, expanded, -⟩ := (generate_eq_ok_iff ordered).mp generated
      exact expand_known expanded reached
    · intro reachable id failed
      obtain ⟨reached, absent⟩ := missed failed
      rw [reached.contains reachable] at absent
      cases absent
  · rw [generate_inverted ordered]
    simp

def easterOnly : Specification where
  id := "easter-only"
  metadata := ⟨none, none, some "tenday"⟩
  weekend := .satSun
  policy := .none
  references := [⟨"pascha", "EASTER_ORTHODOX"⟩]
  sources := []
  classifications := []
  deltas := []
  chain := []

def tenDayRegistry : Registry := ⟨[.table TableCalendar.tenDayCalendar]⟩

/-- 2024-01-09. -/
def someTuesday : Date := (Date.ofNumber? 738894).getD .first

/-- Beside the built-in systems the calendar of ten months is enough; alone it is not. -/
theorem generate_reaches_easterOnly :
    (∀ id, easterOnly.generate (Registry.defaults.run Registry.someChanges) someTuesday
      someTuesday ≠ .error (.chronology (.unknownSystem id))) ∧
    ∀ events, easterOnly.generate tenDayRegistry someTuesday someTuesday ≠ .ok events := by
  constructor
  · have valid : easterOnly.validate (Registry.defaults.run Registry.someChanges) = .ok () := by
      rw [Registry.run_someChanges]
      decide
    exact (generate_reaches valid someTuesday someTuesday).2.2
      (Registry.Reachable.defaults.run Registry.someChanges)
  · intro events generated
    have valid : easterOnly.validate tenDayRegistry = .ok () := by decide
    have held := (generate_reaches valid someTuesday someTuesday).2.1 events generated
      CalendarSystem.julianId (.easter List.mem_cons_self rfl)
    exact absurd held (by decide)

/-- The check of the named systems is not enough for a registry that does not start from the
defaults: the Julian system behind an Easter is missed. -/
theorem generate_reaches_unnamed :
    ¬ ∀ (registry : Registry), registry.Extended → ∀ (s : Specification) (first last : Date),
      first ≤ last → s.validate registry = .ok () →
      ∀ id, s.generate registry first last ≠ .error (.chronology (.unknownSystem id)) := by
  intro enough
  have extended : tenDayRegistry.Extended := by
    have defined : Registry.empty.define TableCalendar.tenDays = .ok tenDayRegistry := by
      rw [Registry.define_of_ofDefinition TableCalendar.ofDefinition_tenDays]
      rfl
    exact .define .empty defined
  have valid : easterOnly.validate tenDayRegistry = .ok () := by decide
  have failed : easterOnly.generate tenDayRegistry someTuesday someTuesday =
      .error (.chronology (.unknownSystem CalendarSystem.julianId)) := by decide +kernel
  exact enough _ extended easterOnly _ _ (Int.le_refl _) valid _ failed

end Specification

end Holidays
