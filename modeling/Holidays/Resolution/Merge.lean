import Holidays.Keyed
import Holidays.Resolution.Order

/-!
What the entries of a chain say, merged in chain order. Sources, references and classifications
keep for each key the position of the first entry and the value of the last; of metadata, policy
and weekend days the last that are set count.
-/
namespace Holidays

structure Merged where
  metadata : Metadata
  weekend : Option Weekend
  policy : Option ShiftPolicy
  references : List Reference
  sources : List EventSource
  classifications : List (String × Classification)
  deltas : List Delta

namespace Merged

def empty : Merged := ⟨.empty, none, none, [], [], [], []⟩

def addCalendar (m : Merged) (d : CalendarDocument) : Merged :=
  { m with
    metadata := m.metadata.overlay d.metadata
    policy := d.policy <|> m.policy
    sources := Keyed.putAll EventSource.key m.sources d.sources
    classifications := Keyed.putAll Prod.fst m.classifications d.classifications
    deltas := m.deltas ++ d.deltas }

/-- A module that lists no weekend days has no opinion on them. -/
def addModule (m : Merged) (d : ModuleDocument) : Merged :=
  { m with
    weekend := if d.weekends.isEmpty then m.weekend else some (Weekend.ofList d.weekends)
    references := Keyed.putAll Reference.key m.references d.references
    sources := Keyed.putAll EventSource.key m.sources d.sources }

def add (c : Catalog) (m : Merged) : Entry → Merged
  | .calendar id => (c.calendar? id).elim m m.addCalendar
  | .module id => (c.module? id).elim m m.addModule

def specification (m : Merged) (id : String) (chain : List Entry) : Specification where
  id
  metadata := m.metadata
  weekend := m.weekend.getD .satSun
  policy := m.policy.getD .none
  references := m.references
  sources := m.sources
  classifications := m.classifications
  deltas := m.deltas
  chain := chain.map Entry.text

end Merged

namespace Catalog

def resolve (c : Catalog) (id : String) : Except ResolutionError Specification :=
  (c.chain id).map fun entries =>
    (entries.foldl (Merged.add c) .empty).specification id entries

end Catalog

end Holidays
