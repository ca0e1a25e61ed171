import Holidays.Chronology.Registry
import Holidays.Document.CalendarJson
import Holidays.Resolution.Order

/-!
Documents collected from files. Each identifier may be taken once among the calendars, once among
the modules and once among the chronologies.
-/
namespace Holidays

structure Library where
  catalog : Catalog
  chronologies : List ChronologyDefinition

inductive LibraryError where
  | catalog (error : CatalogError)
  | chronology (error : ChronologyError)
deriving DecidableEq

def LibraryError.message : LibraryError → String
  | .catalog error => error.message
  | .chronology error => error.message

inductive LoadError where
  | unreadable (file : String)
  | malformed (file : String) (fault : Document.TextFault)
  | library (error : LibraryError)
deriving DecidableEq

def LoadError.message : LoadError → String
  | .unreadable file => "Failed to read " ++ file
  | .malformed file _ => "Failed to parse " ++ file
  | .library error => error.message

namespace Library

def empty : Library := ⟨.empty, []⟩

def add (l : Library) : Document → Except LibraryError Library
  | .calendar d =>
    match l.catalog.insertCalendar d with
    | .error e => .error (.catalog e)
    | .ok catalog => .ok { l with catalog }
  | .module d =>
    match l.catalog.insertModule d with
    | .error e => .error (.catalog e)
    | .ok catalog => .ok { l with catalog }
  | .chronology d =>
    if (l.chronologies.map ChronologyDefinition.id).contains d.id then
      .error (.chronology (.alreadyRegistered d.id))
    else .ok { l with chronologies := l.chronologies ++ [d] }

/-- Documents added in turn up to the first that is refused; those before it stay. -/
def extend (l : Library) : List Document → Library × Option LibraryError
  | [] => (l, none)
  | d :: ds =>
    match l.add d with
    | .error e => (l, some e)
    | .ok l => l.extend ds

def register (l : Library) (registry : Registry) : Registry × Option ChronologyError :=
  go registry l.chronologies
where
  go (registry : Registry) : List ChronologyDefinition → Registry × Option ChronologyError
    | [] => (registry, none)
    | d :: ds =>
      match registry.enrollDefinition d with
      | (.error e, registry) => (registry, some e)
      | (.ok _, registry) => go registry ds

/-- What follows the last dot of a file name, unless that dot is its first character. -/
def extension? (name : String) : Option String :=
  let tail := name.toList.reverse.takeWhile (· ≠ '.')
  if tail.length + 1 < name.length then some (String.ofList tail.reverse) else none

def isDocumentFile (name : String) : Bool := extension? name == some "json"

def addFile (l : Library) (name : String) (content : ByteArray) : Except LoadError Library :=
  match String.fromUTF8? content with
  | none => .error (.unreadable name)
  | some text =>
    match Document.parse text with
    | .error fault => .error (.malformed name fault)
    | .ok documents =>
      match l.extend documents with
      | (_, some e) => .error (.library e)
      | (l, none) => .ok l

/-- The documents of a directory's `json` files, taken in the order of their names. -/
def ofFiles (files : List (String × ByteArray)) : Except LoadError Library :=
  ((files.filter fun f => isDocumentFile f.1).mergeSort fun f g => decide (f.1 ≤ g.1)).foldlM
    (fun l f => l.addFile f.1 f.2) empty

end Library

end Holidays
