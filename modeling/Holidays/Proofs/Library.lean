import Holidays.Library
import Holidays.Proofs.Chronology.Registration

/-!
Chronologies loaded from lists of documents and registered after that. Loading compares their
identifiers as they are written, while a registered calendar goes by its identifier without the
blanks around it. So of two that differ in blanks alone the later one is loaded and then refused.
-/
namespace Holidays

def ChronologyDefinition.systemId (d : ChronologyDefinition) : String := Text.trim d.id

def Document.chronology? : Document → Option ChronologyDefinition
  | .chronology d => some d
  | .calendar _ => none
  | .module _ => none

namespace Registry

inductive Defines : Registry → List ChronologyDefinition → Registry → Prop
  | nil (r : Registry) : Defines r [] r
  | cons {r mid next : Registry} {d : ChronologyDefinition} {ds : List ChronologyDefinition}
      (first : r.define d = .ok mid) (rest : Defines mid ds next) : Defines r (d :: ds) next

variable {r next : Registry} {d : ChronologyDefinition} {ds : List ChronologyDefinition}

theorem ids_of_define (defined : r.define d = .ok next) : next.ids = r.ids ++ [d.systemId] := by
  obtain ⟨c, built, -, rfl⟩ := define_eq_ok.mp defined
  obtain ⟨named, -⟩ := TableCalendar.ofDefinition_eq_ok built
  simp [ids, CalendarSystem.id_table, named, ChronologyDefinition.systemId]

/-- Of a definition that is fit in itself, only its identifier can be refused. -/
theorem define_eq_error {c : TableCalendar} (built : TableCalendar.ofDefinition d = .ok c)
    {e : ChronologyError} (refused : r.define d = .error e) :
    e = .alreadyRegistered d.systemId ∧ d.systemId ∈ r.ids := by
  obtain ⟨named, -⟩ := TableCalendar.ofDefinition_eq_ok built
  have same : (CalendarSystem.table c).id = d.systemId := named
  simp only [define_of_ofDefinition built, register, enroll, contains, List.contains_iff_mem,
    same] at refused
  split at refused
  · next taken =>
    cases refused
    exact ⟨rfl, taken⟩
  · cases refused

namespace Defines

theorem ids_eq (h : Defines r ds next) :
    next.ids = r.ids ++ ds.map ChronologyDefinition.systemId := by
  induction h with
  | nil => simp
  | cons first _ ih => simp [ih, ids_of_define first]

theorem systems_prefix (h : Defines r ds next) : r.systems <+: next.systems := by
  induction h with
  | nil => exact List.prefix_rfl
  | cons first _ ih =>
    obtain ⟨c, -, -, rfl⟩ := define_eq_ok.mp first
    exact (List.prefix_append _ _).trans ih

theorem mem_systems (h : Defines r ds next) (held : d ∈ ds) :
    ∃ c, TableCalendar.ofDefinition d = .ok c ∧ CalendarSystem.table c ∈ next.systems := by
  induction h with
  | nil => cases held
  | cons first rest ih =>
    rcases List.mem_cons.mp held with rfl | later
    · obtain ⟨c, built, -, rfl⟩ := define_eq_ok.mp first
      exact ⟨c, built, rest.systems_prefix.subset (by simp)⟩
    · exact ih later

theorem reachable (h : Defines r ds next) (start : r.Reachable) : next.Reachable := by
  induction h with
  | nil => exact start
  | cons first _ ih => exact ih (.define start first)

theorem get_systemId (h : Defines r ds next) (start : r.Reachable) (held : d ∈ ds) :
    ∃ c, TableCalendar.ofDefinition d = .ok c ∧ next.get d.systemId = .ok (.table c) := by
  obtain ⟨c, built, known⟩ := h.mem_systems held
  obtain ⟨named, -⟩ := TableCalendar.ofDefinition_eq_ok built
  have got := get_of_mem (h.reachable start).distinct known
  rw [CalendarSystem.id_table, named] at got
  exact ⟨c, built, got⟩

end Defines

end Registry

namespace Library

open Registry (Defines)

/-- `l` comes of an empty library by lists of documents that were accepted one after the other. -/
inductive Loads : List (List Document) → Library → Prop
  | start : Loads [] .empty
  | extend {lists : List (List Document)} {l next : Library} {ds : List Document}
      (before : Loads lists l) (accepted : l.extend ds = (next, none)) :
      Loads (lists ++ [ds]) next

variable {l next : Library}

section Loading

def Distinct (l : Library) : Prop := (l.chronologies.map ChronologyDefinition.id).Nodup

theorem add_cases {d : Document} (added : l.add d = .ok next) :
    (d.chronology? = none ∧ next.chronologies = l.chronologies) ∨
      ∃ c, d.chronology? = some c ∧ c.id ∉ l.chronologies.map ChronologyDefinition.id ∧
        next.chronologies = l.chronologies ++ [c] := by
  cases d with
  | calendar d | module d =>
    simp only [add] at added
    split at added
    · cases added
    · cases added
      exact .inl ⟨rfl, rfl⟩
  | chronology c =>
    simp only [add, List.contains_iff_mem] at added
    split at added
    · cases added
    · next new =>
      cases added
      exact .inr ⟨c, rfl, new, rfl⟩

theorem add_chronologies {d : Document} (added : l.add d = .ok next) :
    next.chronologies = l.chronologies ++ d.chronology?.toList := by
  rcases add_cases added with ⟨other, same⟩ | ⟨c, given, -, same⟩
  · simp [other, same]
  · simp [given, same]

theorem Distinct.add (distinct : l.Distinct) {d : Document} (added : l.add d = .ok next) :
    next.Distinct := by
  rcases add_cases added with ⟨-, same⟩ | ⟨c, -, new, same⟩
  · rwa [Distinct, same]
  · rw [Distinct, same, List.map_append]
    exact distinct.append (List.nodup_singleton c.id) (List.disjoint_singleton.mpr new)

theorem extend_accepted {ds : List Document} (accepted : l.extend ds = (next, none)) :
    next.chronologies = l.chronologies ++ ds.filterMap Document.chronology? ∧
      (l.Distinct → next.Distinct) := by
  induction ds generalizing l with
  | nil =>
    cases accepted
    exact ⟨by simp, id⟩
  | cons d ds ih =>
    rw [extend] at accepted
    split at accepted
    · cases accepted
    · next mid added =>
      obtain ⟨same, kept⟩ := ih accepted
      refine ⟨?_, fun distinct => kept (distinct.add added)⟩
      rw [same, add_chronologies added, List.append_assoc]
      cases given : d.chronology? <;> simp [given]

theorem Loads.chronologies_eq {lists : List (List Document)} (loaded : Loads lists l) :
    l.chronologies = lists.flatten.filterMap Document.chronology? := by
  induction loaded with
  | start => rfl
  | extend _ accepted ih => simp [(extend_accepted accepted).1, ih]

theorem Loads.distinct {lists : List (List Document)} (loaded : Loads lists l) : l.Distinct := by
  induction loaded with
  | start => exact List.nodup_nil
  | extend _ accepted ih => exact (extend_accepted accepted).2 ih

end Loading

section Registering

variable {r : Registry} {ds : List ChronologyDefinition}

theorem register_go_cases (r : Registry) (ds : List ChronologyDefinition) :
    (∃ next, register.go r ds = (next, none) ∧ Defines r ds next) ∨
      ∃ before d after next e, ds = before ++ d :: after ∧ Defines r before next ∧
        next.define d = .error e ∧ register.go r ds = (next, some e) := by
  induction ds generalizing r with
  | nil => exact .inl ⟨r, rfl, .nil r⟩
  | cons d ds ih =>
    rw [register.go, Registry.enrollDefinition_eq]
    cases defined : r.define d with
    | error e => exact .inr ⟨[], d, ds, r, e, rfl, .nil r, defined, rfl⟩
    | ok mid =>
      rcases ih mid with ⟨next, ran, defines⟩ |
        ⟨before, d', after, next, e, rfl, defines, refused, stopped⟩
      · exact .inl ⟨next, ran, .cons defined defines⟩
      · exact .inr ⟨d :: before, d', after, next, e, rfl, .cons defined defines, refused, stopped⟩

structure Registers (ds : List ChronologyDefinition)
    (outcome : Registry × Option ChronologyError) : Prop where
  succeeds : outcome.2 = none ↔ (ds.map ChronologyDefinition.systemId).Nodup
  known : outcome.2 = none →
    outcome.1.ids = Registry.defaults.ids ++ ds.map ChronologyDefinition.systemId ∧
    ∀ d ∈ ds, ∃ c, TableCalendar.ofDefinition d = .ok c ∧
      outcome.1.get d.systemId = .ok (.table c)
  refused : ∀ e, outcome.2 = some e → ∃ before d after, ds = before ++ d :: after ∧
    e = .alreadyRegistered d.systemId ∧
    outcome.1.ids = Registry.defaults.ids ++ before.map ChronologyDefinition.systemId ∧
    ∃ earlier ∈ before, earlier.systemId = d.systemId ∧ earlier.id ≠ d.id

/-- Fit to be registered with the default systems, were it alone. -/
structure Fit (d : ChronologyDefinition) : Prop where
  accepted : ∃ c, TableCalendar.ofDefinition d = .ok c
  foreign : d.systemId ∉ Registry.defaults.ids

theorem registers_go (fit : ∀ d ∈ ds, Fit d)
    (distinct : (ds.map ChronologyDefinition.id).Nodup) :
    Registers ds (register.go .defaults ds) := by
  rcases register_go_cases .defaults ds with ⟨next, ran, defines⟩ |
    ⟨before, d, after, next, e, rfl, defines, refused, stopped⟩
  · rw [ran]
    have apart := (defines.reachable .defaults).distinct
    rw [defines.ids_eq] at apart
    exact {
      succeeds := iff_of_true rfl apart.of_append_right
      known := fun _ => ⟨defines.ids_eq, fun _ => defines.get_systemId .defaults⟩
      refused := fun _ => nofun }
  · rw [stopped]
    obtain ⟨⟨c, built⟩, foreign⟩ := fit d (by simp)
    obtain ⟨rfl, taken⟩ := Registry.define_eq_error built refused
    rw [defines.ids_eq, List.mem_append, or_iff_right foreign, List.mem_map] at taken
    obtain ⟨earlier, held, same⟩ := taken
    have repeated : ¬ ((before ++ d :: after).map ChronologyDefinition.systemId).Nodup :=
      Keyed.not_nodup_of_repeated held same
    have written : earlier.id ≠ d.id := fun again =>
      Keyed.not_nodup_of_repeated held again distinct
    exact {
      succeeds := iff_of_false nofun repeated
      known := nofun
      refused := by
        rintro e ⟨⟩
        exact ⟨before, d, after, rfl, rfl, defines.ids_eq, earlier, held, same, written⟩ }

/-- Registering what was loaded fails just where two identifiers differ in the blanks around them
alone; those written alike were caught before. -/
theorem register_loaded {lists : List (List Document)} (loaded : Loads lists l)
    (fit : ∀ documents ∈ lists, ∀ d, .chronology d ∈ documents → Fit d) :
    l.chronologies = lists.flatten.filterMap Document.chronology? ∧ l.Distinct ∧
      Registers l.chronologies (l.register .defaults) ∧
      ((∀ d ∈ l.chronologies, d.systemId = d.id) → (l.register .defaults).2 = none) := by
  have allFit : ∀ d ∈ l.chronologies, Fit d := by
    intro d held
    rw [loaded.chronologies_eq, List.mem_filterMap] at held
    obtain ⟨document, held, given⟩ := held
    obtain ⟨documents, listed, held⟩ := List.mem_flatten.mp held
    cases document with
    | calendar _ | module _ => cases given
    | chronology c =>
      cases given
      exact fit documents listed d held
  have registers := registers_go allFit loaded.distinct
  refine ⟨loaded.chronologies_eq, loaded.distinct, registers, fun trimmed => ?_⟩
  have same := List.map_congr_left trimmed
  exact registers.succeeds.mpr (same ▸ loaded.distinct)

def tenDaysAs (id : String) : ChronologyDefinition := { TableCalendar.tenDays with id }

theorem fit_tenDaysAs (id : String) (named : Text.trim id ≠ "")
    (foreign : Text.trim id ∉ Registry.defaults.ids) : Fit (tenDaysAs id) := by
  have describes := TableCalendar.exists_ofDefinition_iff.mp ⟨_, TableCalendar.ofDefinition_tenDays⟩
  exact ⟨TableCalendar.exists_ofDefinition_iff.mpr { describes with named }, foreign⟩

def tenDaysTwice (id other : String) : Library := ⟨.empty, [tenDaysAs id, tenDaysAs other]⟩

theorem register_loaded_tenDays :
    ((tenDaysTwice " tenday " "tendays").register .defaults).1.ids =
      ["gregorian", "julian", "islamic", "tenday", "tendays"] := by
  have loaded : Loads [[.chronology (tenDaysAs " tenday ")], [.chronology (tenDaysAs "tendays")]]
      (tenDaysTwice " tenday " "tendays") := .extend (.extend .start rfl) rfl
  have spaced := fit_tenDaysAs " tenday " (by decide) (by decide)
  have plain := fit_tenDaysAs "tendays" (by decide) (by decide)
  obtain ⟨-, -, registers, -⟩ := register_loaded loaded (by simpa using ⟨spaced, plain⟩)
  have apart := registers.succeeds.mpr (by decide)
  exact (registers.known apart).1

/-- An identifier that is repeated but for its blanks is accepted on loading. -/
theorem register_loaded_blanks :
    ¬ ∀ (lists : List (List Document)) (l : Library), Loads lists l →
      (∀ documents ∈ lists, ∀ d, .chronology d ∈ documents → Fit d) →
        (l.register .defaults).2 = none := by
  intro always
  have loaded : Loads [[.chronology (tenDaysAs " tenday "), .chronology (tenDaysAs "tenday")]]
      (tenDaysTwice " tenday " "tenday") := .extend .start rfl
  have spaced := fit_tenDaysAs " tenday " (by decide) (by decide)
  have plain := fit_tenDaysAs "tenday" (by decide) (by decide)
  have registered := always _ _ loaded (by simpa using ⟨spaced, plain⟩)
  have refused : ((tenDaysTwice " tenday " "tenday").register .defaults).2 =
      some (.alreadyRegistered "tenday") := by
    have first : TableCalendar.ofDefinition (tenDaysAs " tenday ") =
      .ok TableCalendar.tenDayCalendar := TableCalendar.ofDefinition_tenDays
    have second : TableCalendar.ofDefinition (tenDaysAs "tenday") =
      .ok TableCalendar.tenDayCalendar := Registry.ofDefinition_spelledOut
    simp only [register, register.go, tenDaysTwice, Registry.enrollDefinition, first, second]
    rfl
  rw [refused] at registered
  cases registered

end Registering

end Library

end Holidays
