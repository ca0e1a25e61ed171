import Holidays.Document.Calendar

/-!
The calendar and module documents at hand. The two kinds have identifiers of their own: a calendar
and a module may go by one name.
-/
namespace Holidays

structure Catalog where
  calendars : List CalendarDocument
  modules : List ModuleDocument

inductive CatalogError where
  | emptyIdentifier
  | duplicateIdentifier (id : String)
deriving DecidableEq, Repr

def CatalogError.message : CatalogError → String
  | .emptyIdentifier => "Invalid input: specification identifier is empty"
  | .duplicateIdentifier id => "Duplicate specification identifier: " ++ id

namespace Catalog

def empty : Catalog := ⟨[], []⟩

def calendarIds (c : Catalog) : List String := c.calendars.map CalendarDocument.id

def moduleIds (c : Catalog) : List String := c.modules.map ModuleDocument.id

def calendar? (c : Catalog) (id : String) : Option CalendarDocument :=
  c.calendars.find? (·.id == id)

def module? (c : Catalog) (id : String) : Option ModuleDocument := c.modules.find? (·.id == id)

def insertCalendar (c : Catalog) (d : CalendarDocument) : Except CatalogError Catalog :=
  if Text.isBlank d.id then .error .emptyIdentifier
  else if c.calendarIds.contains d.id then .error (.duplicateIdentifier d.id)
  else .ok ⟨c.calendars ++ [d], c.modules⟩

def insertModule (c : Catalog) (d : ModuleDocument) : Except CatalogError Catalog :=
  if Text.isBlank d.id then .error .emptyIdentifier
  else if c.moduleIds.contains d.id then .error (.duplicateIdentifier d.id)
  else .ok ⟨c.calendars, c.modules ++ [d]⟩

end Catalog

inductive Entry where
  | calendar (id : String)
  | module (id : String)
deriving DecidableEq, Repr

namespace Entry

def text : Entry → String
  | .calendar id => "calendar:" ++ id
  | .module id => "module:" ++ id

end Entry

namespace Catalog

def entries (c : Catalog) : List Entry :=
  c.calendarIds.map Entry.calendar ++ c.moduleIds.map Entry.module

/-- What an entry needs, in the order in which it is merged: parents, then modules. -/
def needs? (c : Catalog) : Entry → Option (List Entry)
  | .calendar id => (c.calendar? id).map fun d =>
      d.parents.map Entry.calendar ++ d.uses.map Entry.module
  | .module id => (c.module? id).map fun d => d.uses.map Entry.module

theorem mem_entries_of_needs? {c : Catalog} {e : Entry} {needs : List Entry}
    (h : c.needs? e = some needs) : e ∈ c.entries := by
  cases e with
  | calendar id =>
    obtain ⟨d, found, -⟩ := Option.map_eq_some_iff.1 h
    have same : d.id = id := by simpa using List.find?_some found
    have held := List.mem_of_find?_eq_some found
    exact List.mem_append_left _ (List.mem_map.2 ⟨id, List.mem_map.2 ⟨d, held, same⟩, rfl⟩)
  | module id =>
    obtain ⟨d, found, -⟩ := Option.map_eq_some_iff.1 h
    have same : d.id = id := by simpa using List.find?_some found
    have held := List.mem_of_find?_eq_some found
    exact List.mem_append_right _ (List.mem_map.2 ⟨id, List.mem_map.2 ⟨d, held, same⟩, rfl⟩)

end Catalog

end Holidays
