import Holidays.Chronology.Words

namespace Holidays

structure Registry where
  systems : List CalendarSystem

namespace Registry

def empty : Registry := ⟨[]⟩

def defaults : Registry := ⟨[.gregorian, .julian, .islamic]⟩

def ids (r : Registry) : List String := r.systems.map CalendarSystem.id

def contains (r : Registry) (id : String) : Bool := r.ids.contains id

def find? (r : Registry) (id : String) : Option CalendarSystem := r.systems.find? (·.id == id)

def get (r : Registry) (id : String) : Except ChronologyError CalendarSystem :=
  match r.find? id with
  | none => .error (.unknownSystem id)
  | some s => .ok s

/-- Registers a system, unless its identifier is taken. The registry comes back either way. -/
def enroll (r : Registry) (s : CalendarSystem) : Except ChronologyError Unit × Registry :=
  if r.contains s.id then (.error (.alreadyRegistered s.id), r)
  else (.ok (), ⟨r.systems ++ [s]⟩)

/-- Registers the calendar of a definition; its formula is compiled here and not on first use. -/
def enrollDefinition (r : Registry) (d : ChronologyDefinition) :
    Except ChronologyError Unit × Registry :=
  match TableCalendar.ofDefinition d with
  | .error e => (.error e, r)
  | .ok c => r.enroll (.table c)

inductive BuiltIn where
  | gregorian
  | julian
  | islamic

def BuiltIn.system : BuiltIn → CalendarSystem
  | .gregorian => .gregorian
  | .julian => .julian
  | .islamic => .islamic

inductive Operation where
  | register (s : BuiltIn)
  | define (d : ChronologyDefinition)
  | reset

def perform (r : Registry) : Operation → Except ChronologyError Unit × Registry
  | .register s => r.enroll s.system
  | .define d => r.enrollDefinition d
  | .reset => (.ok (), .defaults)

def succeeded : Except ChronologyError Unit × Registry → Except ChronologyError Registry
  | (.error e, _) => .error e
  | (.ok _, next) => .ok next

def register (r : Registry) (s : CalendarSystem) : Except ChronologyError Registry :=
  succeeded (r.enroll s)

def define (r : Registry) (d : ChronologyDefinition) : Except ChronologyError Registry :=
  succeeded (r.enrollDefinition d)

def toPivot (r : Registry) (d : SystemDate) : Except ChronologyError Int := do
  (← r.get d.system).toPivot d.ymd

def ofPivot (r : Registry) (system : String) (pivot : Int) : Except ChronologyError SystemDate := do
  (← r.get system).ofPivot pivot

def convert (r : Registry) (d : SystemDate) (target : String) :
    Except ChronologyError SystemDate := do
  r.ofPivot target (← r.toPivot d)

/-- The civil date of a date of any system; one that is civil already is taken as it is. -/
def toCivil (r : Registry) (d : SystemDate) : Except ChronologyError Date :=
  match d.toDate? with
  | some date => .ok date
  | none => do
    let pivot ← r.toPivot d
    match (← r.ofPivot CalendarSystem.civilId pivot).toDate? with
    | none => .error (.pivotOutOfRange CalendarSystem.civilId pivot)
    | some date => .ok date

def ofCivil (r : Registry) (d : Date) (system : String) : Except ChronologyError SystemDate :=
  r.convert (.civil d) system

/-! The same in words. -/

section

variable (a : WordArithmetic) (r : Registry)

def toPivotIn (d : SystemDate) : Except Stop Int := do
  (← inWords (r.get d.system)).toPivotIn a d.ymd

def ofPivotIn (system : String) (pivot : Int) : Except Stop SystemDate := do
  (← inWords (r.get system)).ofPivotIn a pivot

def convertIn (d : SystemDate) (target : String) : Except Stop SystemDate := do
  r.ofPivotIn a target (← r.toPivotIn a d)

def toCivilIn (d : SystemDate) : Except Stop Date :=
  match d.toDate? with
  | some date => .ok date
  | none => do
    let pivot ← r.toPivotIn a d
    match (← r.ofPivotIn a CalendarSystem.civilId pivot).toDate? with
    | none => .error (.refused (.pivotOutOfRange CalendarSystem.civilId pivot))
    | some date => .ok date

def ofCivilIn (d : Date) (system : String) : Except Stop SystemDate :=
  r.convertIn a (.civil d) system

end

end Registry

end Holidays
