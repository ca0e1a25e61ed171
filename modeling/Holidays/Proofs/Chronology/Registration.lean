import Holidays.Proofs.Chronology.Agreement
import Holidays.Proofs.Chronology.DateOrder
import Holidays.Proofs.Keyed

/-!
Registries in use. Whatever is registered, defined or reset, accepted or refused, the identifiers
stay distinct and free of blanks, each stands for the system that signs its dates with it, and the
built-in systems stand in front.
-/
namespace Holidays

namespace Text

def Trimmed (s : String) : Prop :=
  ∀ c, s.toList.head? = some c ∨ s.toList.getLast? = some c → isSpace c = false

theorem isSpace_head_dropSpaces {cs : List Char} {c : Char}
    (first : (dropSpaces cs).head? = some c) : isSpace c = false := by
  have stopped := List.head?_dropWhile_not isSpace cs
  rw [← dropSpaces, first] at stopped
  exact stopped

theorem trimmed_trim (s : String) : Trimmed (trim s) := by
  intro c ends
  rw [trim, String.toList_ofList, trimChars, List.head?_reverse, List.getLast?_reverse] at ends
  rcases ends with first | last
  · -- What the second dropping leaves ends where the text began after the first one.
    obtain ⟨dropped, split⟩ := List.dropWhile_suffix isSpace (l := (dropSpaces s.toList).reverse)
    rw [← dropSpaces] at split
    have same : (dropSpaces s.toList).head? = some c := by
      rw [← List.getLast?_reverse, ← split, List.getLast?_append, first]
      rfl
    exact isSpace_head_dropSpaces same
  · exact isSpace_head_dropSpaces last

theorem trimmed_of_trim {s : String} (same : trim s = s) : Trimmed s := same ▸ trimmed_trim s

end Text

theorem CalendarSystem.id_table (c : TableCalendar) : (CalendarSystem.table c).id = c.id := rfl

namespace Registry

def performAll (r : Registry) (ops : List Operation) : Registry :=
  ops.foldl (fun r op => (r.perform op).2) r

variable {r next : Registry} {op : Operation}

/-- All that an operation can do: fail and change nothing, start again, or put one new system behind
the others. -/
theorem perform_cases (r : Registry) (op : Operation) :
    (∃ e, r.perform op = (.error e, r)) ∨ (op = .reset ∧ r.perform op = (.ok (), .defaults)) ∨
      ∃ s : CalendarSystem, s.id ∉ r.ids ∧ r.perform op = (.ok (), ⟨r.systems ++ [s]⟩) := by
  have enrolled (s : CalendarSystem) : (∃ e, r.enroll s = (.error e, r)) ∨
      s.id ∉ r.ids ∧ r.enroll s = (.ok (), ⟨r.systems ++ [s]⟩) := by
    simp only [enroll, contains, List.contains_iff_mem]
    split
    · exact .inl ⟨_, rfl⟩
    · next new => exact .inr ⟨new, rfl⟩
  cases op with
  | register s => exact (enrolled s.system).imp_right fun done => .inr ⟨s.system, done⟩
  | define d =>
    cases built : TableCalendar.ofDefinition d with
    | error e => exact .inl ⟨e, by rw [perform, enrollDefinition, built]⟩
    | ok c =>
      rw [perform, enrollDefinition, built]
      exact (enrolled (.table c)).imp_right fun done => .inr ⟨.table c, done⟩
  | reset => exact .inr (.inl ⟨rfl, rfl⟩)

theorem enrollDefinition_eq_ok_iff {d : ChronologyDefinition} :
    (r.enrollDefinition d).1 = .ok () ↔ d.Describes ∧ Text.trim d.id ∉ r.ids := by
  rw [← TableCalendar.exists_ofDefinition_iff, enrollDefinition]
  cases built : TableCalendar.ofDefinition d with
  | error e => simp
  | ok c =>
    have named : (CalendarSystem.table c).id = Text.trim d.id :=
      (TableCalendar.ofDefinition_eq_ok built).1
    simp only [enroll, contains, List.contains_iff_mem, named]
    split <;> simp_all

theorem get_eq_keyed (r : Registry) (id : String) :
    r.get id = match Keyed.find? CalendarSystem.id id r.systems with
      | none => .error (.unknownSystem id)
      | some s => .ok s := rfl

theorem get_of_mem (distinct : r.ids.Nodup) {s : CalendarSystem} (held : s ∈ r.systems) :
    r.get s.id = .ok s := by
  rw [get_eq_keyed, Keyed.find?_of_mem distinct held]

theorem get_append {id : String} (known : id ∈ r.ids) (s : CalendarSystem) :
    (⟨r.systems ++ [s]⟩ : Registry).get id = r.get id := by
  have found : (Keyed.find? CalendarSystem.id id r.systems).isSome = true :=
    Keyed.isSome_find?_iff.mpr known
  obtain ⟨t, here⟩ := Option.isSome_iff_exists.mp found
  simp [get_eq_keyed, Keyed.find?_append, here]

theorem Reachable.mem_builtIn (h : r.Reachable) (s : BuiltIn) : s.system ∈ r.systems := by
  obtain ⟨tables, shape⟩ := h.systems_eq
  cases s <;> simp [shape, BuiltIn.system]

theorem Reachable.perform (h : r.Reachable) (op : Operation) : (r.perform op).2.Reachable := by
  cases op with
  | register s =>
    -- The identifiers of the built-in systems are always taken.
    have taken : s.system.id ∈ r.ids := List.mem_map_of_mem (h.mem_builtIn s)
    have same : r.perform (.register s) = (.error (.alreadyRegistered s.system.id), r) := by
      simp [Registry.perform, enroll, contains, taken]
    rwa [same]
  | define d => exact h.enrollDefinition d
  | reset => exact .defaults

theorem Reachable.performAll (h : r.Reachable) (ops : List Operation) :
    (r.performAll ops).Reachable := by
  induction ops generalizing r with
  | nil => exact h
  | cons op ops ih => exact ih (h.perform op)

theorem Reachable.distinct (h : r.Reachable) : r.ids.Nodup := by
  induction h with
  | defaults => decide
  | @define r next d _ defined ih =>
    obtain ⟨c, -, new, rfl⟩ := define_eq_ok.mp defined
    have apart : ∀ id ∈ r.ids, id ≠ c.id := fun id held same => new (same ▸ held)
    simpa [ids, List.nodup_append, CalendarSystem.id_table] using And.intro ih apart

theorem Reachable.exists_definition (h : r.Reachable) {c : TableCalendar}
    (held : CalendarSystem.table c ∈ r.systems) :
    ∃ d, TableCalendar.ofDefinition d = .ok c := by
  induction h with
  | defaults => simp [Registry.defaults] at held
  | @define r next d _ defined ih =>
    obtain ⟨b, built, -, rfl⟩ := define_eq_ok.mp defined
    rcases List.mem_append.mp held with old | new
    · exact ih old
    · cases List.mem_singleton.mp new
      exact ⟨d, built⟩

theorem Reachable.trimmed (h : r.Reachable) {id : String} (known : id ∈ r.ids) :
    id ≠ "" ∧ Text.Trimmed id := by
  obtain ⟨s, held, rfl⟩ := List.mem_map.mp known
  cases s with
  | table c =>
    obtain ⟨d, built⟩ := h.exists_definition held
    obtain ⟨named, -⟩ := TableCalendar.ofDefinition_eq_ok built
    have describes := TableCalendar.exists_ofDefinition_iff.mp ⟨c, built⟩
    rw [CalendarSystem.id_table, named]
    exact ⟨describes.named, Text.trimmed_trim d.id⟩
  | gregorian | julian | islamic => exact ⟨by decide, Text.trimmed_of_trim (by decide)⟩

theorem mem_of_get {id : String} {s : CalendarSystem} (got : r.get id = .ok s) :
    s ∈ r.systems := by
  unfold get at got
  split at got
  · cases got
  · next found =>
    cases got
    exact List.mem_of_find?_eq_some found

structure Consistent (r : Registry) : Prop where
  distinct : r.ids.Nodup
  builtInFirst :
    [CalendarSystem.civilId, CalendarSystem.julianId, CalendarSystem.islamicId] <+: r.ids
  builtIn : ∀ s : BuiltIn, r.get s.system.id = .ok s.system
  trimmed : ∀ id ∈ r.ids, id ≠ "" ∧ Text.Trimmed id
  signed : ∀ id ∈ r.ids, ∃ s, r.get id = .ok s ∧ s.id = id ∧
    (∀ pivot d, r.ofPivot id pivot = .ok d → d.system = id) ∧
    ∀ a pivot d, r.ofPivotIn a id pivot = .ok d → d.system = id
  compiled : ∀ id c, r.get id = .ok (.table c) →
    ∃ (d : ChronologyDefinition) (source : String), c.id = Text.trim d.id ∧
      c.months = d.months ∧ d.leapFormula = some source ∧ LeapRule.compile source = .ok c.rule
  months : ∀ id s, r.get id = .ok s → ∀ year,
    s.monthLengths year ≠ [] ∧ ∀ length ∈ s.monthLengths year, 0 < length

structure Guarded (r : Registry) : Prop where
  failing : ∀ op e, (r.perform op).1 = .error e → (r.perform op).2 = r
  appending : ∀ op, op ≠ .reset → (r.perform op).1 = .ok () →
    ∃ id, id ∉ r.ids ∧ (r.perform op).2.ids = r.ids ++ [id] ∧
      ∀ known ∈ r.ids, (r.perform op).2.get known = r.get known
  defining : ∀ d, (r.perform (.define d)).1 = .ok () ↔ d.Describes ∧ Text.trim d.id ∉ r.ids
  resetting : r.perform .reset = (.ok (), .defaults)

theorem Reachable.consistent (h : r.Reachable) : r.Consistent where
  distinct := h.distinct
  builtInFirst := by
    obtain ⟨tables, shape⟩ := h.systems_eq
    simp [ids, shape, CalendarSystem.id]
  builtIn s := get_of_mem h.distinct (h.mem_builtIn s)
  trimmed id known := h.trimmed known
  signed id known := by
    obtain ⟨s, held, rfl⟩ := List.mem_map.mp known
    exact ⟨s, get_of_mem h.distinct held, rfl, fun _ _ => system_of_ofPivot,
      fun _ _ _ => system_of_ofPivotIn⟩
  compiled id c got := by
    obtain ⟨d, built⟩ := h.exists_definition (mem_of_get got)
    obtain ⟨named, -, months, source, given, compiled⟩ := TableCalendar.ofDefinition_eq_ok built
    exact ⟨d, source, named, months, given, compiled⟩
  months id s got year := ⟨s.monthLengths_ne_nil year, s.monthLengths_positive year⟩

theorem guarded (r : Registry) : r.Guarded where
  failing op e failed := by
    rcases perform_cases r op with ⟨_, same⟩ | ⟨-, done⟩ | ⟨s, -, done⟩
    · rw [same]
    · rw [done] at failed
      cases failed
    · rw [done] at failed
      cases failed
  appending op other done := by
    rcases perform_cases r op with ⟨e, failed⟩ | ⟨same, -⟩ | ⟨s, new, appended⟩
    · rw [failed] at done
      cases done
    · exact absurd same other
    · rw [appended]
      exact ⟨s.id, new, by simp [ids], fun known held => get_append held s⟩
  defining d := enrollDefinition_eq_ok_iff
  resetting := rfl

theorem performAll_consistent (ops : List Operation) :
    (defaults.performAll ops).Consistent ∧ (defaults.performAll ops).Guarded :=
  ⟨(Reachable.defaults.performAll ops).consistent, guarded _⟩

/-- The last two are refused: the identifier is taken once its blanks are gone, and a month has no
days. -/
def someOperations : List Operation :=
  [.register .julian, .define TableCalendar.tenDays, .reset, .define TableCalendar.tenDays,
    .define { TableCalendar.tenDays with id := "tenday" },
    .define { TableCalendar.tenDays with id := "short", months := [⟨"Month", 0, none⟩] }]

theorem ofDefinition_spelledOut :
    TableCalendar.ofDefinition { TableCalendar.tenDays with id := "tenday" } =
      .ok TableCalendar.tenDayCalendar :=
  TableCalendar.ofDefinition_eq_ok_of (by decide +kernel) (by decide) rfl rfl rfl rfl
    LeapRule.compile_everyFourth

theorem performAll_someOperations : defaults.performAll someOperations =
    ⟨[.gregorian, .julian, .islamic, .table TableCalendar.tenDayCalendar]⟩ := by
  cases short : TableCalendar.ofDefinition
      { TableCalendar.tenDays with id := "short", months := [⟨"Month", 0, none⟩] } with
  | ok c => exact absurd (TableCalendar.exists_ofDefinition_iff.mp ⟨c, short⟩).someDay (by decide)
  | error e =>
    simp only [performAll, someOperations, List.foldl_cons, List.foldl_nil, perform,
      enrollDefinition, TableCalendar.ofDefinition_tenDays, ofDefinition_spelledOut, short]
    rfl

theorem performAll_consistent_tenDays :
    (defaults.performAll someOperations).ids = ["gregorian", "julian", "islamic", "tenday"] ∧
    Text.Trimmed "tenday" ∧
    ((defaults.performAll someOperations).perform
      (.define { TableCalendar.tenDays with id := "tenday" })).2 =
        defaults.performAll someOperations := by
  obtain ⟨consistent, guarded⟩ := performAll_consistent someOperations
  have ids : (defaults.performAll someOperations).ids =
      ["gregorian", "julian", "islamic", "tenday"] := by rw [performAll_someOperations]; rfl
  have refused : ((defaults.performAll someOperations).perform
      (.define { TableCalendar.tenDays with id := "tenday" })).1 =
        .error (.alreadyRegistered "tenday") := by
    rw [performAll_someOperations, perform, enrollDefinition, ofDefinition_spelledOut]
    rfl
  exact ⟨ids, (consistent.trimmed "tenday" (by simp [ids])).2, guarded.failing _ _ refused⟩

end Registry

end Holidays
