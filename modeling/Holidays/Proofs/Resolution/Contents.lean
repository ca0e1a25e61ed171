import Holidays.Proofs.Keyed
import Holidays.Resolution.Merge

namespace Holidays

/-- What one entry says, with nothing where its kind of document has no such field. -/
structure Contents where
  metadata : Metadata
  weekend : Option Weekend
  policy : Option ShiftPolicy
  references : List Reference
  sources : List EventSource
  classifications : List (String × Classification)
  deltas : List Delta

namespace Contents

def nothing : Contents := ⟨.empty, none, none, [], [], [], []⟩

def ofCalendar (d : CalendarDocument) : Contents :=
  ⟨d.metadata, none, d.policy, [], d.sources, d.classifications, d.deltas⟩

def ofModule (d : ModuleDocument) : Contents :=
  ⟨.empty, if d.weekends = [] then none else some (.ofList d.weekends), none, d.references,
    d.sources, [], []⟩

end Contents

def Catalog.contents (c : Catalog) : Entry → Contents
  | .calendar id => (c.calendar? id).elim .nothing .ofCalendar
  | .module id => (c.module? id).elim .nothing .ofModule

namespace Merged

def absorb (m : Merged) (x : Contents) : Merged where
  metadata := m.metadata.overlay x.metadata
  weekend := x.weekend <|> m.weekend
  policy := x.policy <|> m.policy
  references := Keyed.putAll Reference.key m.references x.references
  sources := Keyed.putAll EventSource.key m.sources x.sources
  classifications := Keyed.putAll Prod.fst m.classifications x.classifications
  deltas := m.deltas ++ x.deltas

theorem absorb_nothing (m : Merged) : m.absorb .nothing = m := by
  simp [absorb, Contents.nothing, Metadata.overlay, Metadata.empty, Keyed.putAll]

theorem addCalendar_eq_absorb (m : Merged) (d : CalendarDocument) :
    m.addCalendar d = m.absorb (.ofCalendar d) := by
  simp [addCalendar, absorb, Contents.ofCalendar, Keyed.putAll]

theorem addModule_eq_absorb (m : Merged) (d : ModuleDocument) :
    m.addModule d = m.absorb (.ofModule d) := by
  by_cases silent : d.weekends = [] <;>
    simp [addModule, absorb, Contents.ofModule, Metadata.overlay, Metadata.empty, Keyed.putAll,
      silent]

theorem add_eq_absorb (c : Catalog) (m : Merged) (e : Entry) :
    m.add c e = m.absorb (c.contents e) := by
  cases e with
  | calendar id =>
    cases found : c.calendar? id with
    | none => simp [add, Catalog.contents, found, absorb_nothing]
    | some d => simp [add, Catalog.contents, found, addCalendar_eq_absorb]
  | module id =>
    cases found : c.module? id with
    | none => simp [add, Catalog.contents, found, absorb_nothing]
    | some d => simp [add, Catalog.contents, found, addModule_eq_absorb]

theorem foldl_add (c : Catalog) (chain : List Entry) (m : Merged) :
    chain.foldl (add c) m = (chain.map c.contents).foldl absorb m := by
  rw [List.foldl_map]
  congr 1
  funext m e
  exact add_eq_absorb c m e

theorem foldl_putAll {α : Type} (key : α → String) (field : Merged → List α)
    (own : Contents → List α)
    (step : ∀ m x, field (absorb m x) = Keyed.putAll key (field m) (own x))
    (xs : List Contents) (m : Merged) :
    field (xs.foldl absorb m) = Keyed.putAll key (field m) (xs.flatMap own) := by
  induction xs generalizing m with
  | nil => rfl
  | cons x xs ih =>
    rw [List.foldl_cons, ih, step, List.flatMap_cons]
    simp only [Keyed.putAll, List.foldl_append]

theorem foldl_getLast? {α : Type} (field : Merged → Option α) (own : Contents → Option α)
    (step : ∀ m x, field (absorb m x) = (own x <|> field m))
    (xs : List Contents) (m : Merged) :
    field (xs.foldl absorb m) = ((xs.filterMap own).getLast? <|> field m) := by
  induction xs generalizing m with
  | nil => simp
  | cons x xs ih =>
    rw [List.foldl_cons, ih, step]
    cases setting : own x with
    | none => simp [setting]
    | some a =>
      simp only [List.filterMap_cons, setting, List.getLast?_cons]
      cases (xs.filterMap own).getLast? <;> rfl

theorem lastWins_foldl {α : Type} {key : α → String} (field : Merged → List α)
    {own : Contents → List α}
    (step : ∀ m x, field (absorb m x) = Keyed.putAll key (field m) (own x))
    (xs : List Contents) {m : Merged} (start : field m = []) :
    Keyed.LastWins key (xs.flatMap own) (field (xs.foldl absorb m)) := by
  rw [foldl_putAll key field own step xs m, start]
  exact Keyed.lastWins_putAll key _

theorem getLast?_foldl {α : Type} (field : Merged → Option α) {own : Contents → Option α}
    (step : ∀ m x, field (absorb m x) = (own x <|> field m))
    (xs : List Contents) {m : Merged} (start : field m = none) :
    field (xs.foldl absorb m) = (xs.filterMap own).getLast? := by
  rw [foldl_getLast? field own step xs m, start]
  cases (xs.filterMap own).getLast? <;> rfl

theorem foldl_deltas (xs : List Contents) (m : Merged) :
    (xs.foldl absorb m).deltas = m.deltas ++ xs.flatMap Contents.deltas := by
  induction xs generalizing m with
  | nil => simp
  | cons x xs ih =>
    rw [List.foldl_cons, ih, List.flatMap_cons, ← List.append_assoc]
    rfl

end Merged

structure Specification.Folds (s : Specification) (xs : List Contents) : Prop where
  sources : Keyed.LastWins EventSource.key (xs.flatMap Contents.sources) s.sources
  references : Keyed.LastWins Reference.key (xs.flatMap Contents.references) s.references
  classifications :
    Keyed.LastWins Prod.fst (xs.flatMap Contents.classifications) s.classifications
  deltas : s.deltas = xs.flatMap Contents.deltas
  name : s.metadata.name = (xs.filterMap (·.metadata.name)).getLast?
  description : s.metadata.description = (xs.filterMap (·.metadata.description)).getLast?
  system : s.metadata.system = (xs.filterMap (·.metadata.system)).getLast?
  policy : s.policy = (xs.filterMap Contents.policy).getLast?.getD .none
  weekend : s.weekend = (xs.filterMap Contents.weekend).getLast?.getD .satSun

theorem Merged.specification_folds (xs : List Contents) (id : String) (chain : List Entry) :
    ((xs.foldl absorb .empty).specification id chain).Folds xs := by
  constructor
  · exact lastWins_foldl sources (fun _ _ => rfl) xs rfl
  · exact lastWins_foldl references (fun _ _ => rfl) xs rfl
  · exact lastWins_foldl classifications (fun _ _ => rfl) xs rfl
  · exact foldl_deltas xs .empty
  · exact getLast?_foldl (·.metadata.name) (fun _ _ => rfl) xs rfl
  · exact getLast?_foldl (·.metadata.description) (fun _ _ => rfl) xs rfl
  · exact getLast?_foldl (·.metadata.system) (fun _ _ => rfl) xs rfl
  · have last := getLast?_foldl policy (fun _ _ => rfl) xs (m := .empty) rfl
    exact congrArg (·.getD .none) last
  · have last := getLast?_foldl weekend (fun _ _ => rfl) xs (m := .empty) rfl
    exact congrArg (·.getD .satSun) last

end Holidays
