import Holidays.Chronology.Islamic
import Holidays.Chronology.Tabulated
import Holidays.Civil.DateText

namespace Holidays

/-- The pivot of a civil date is its day number and this. -/
def civilPivot : Int := 1721425

def Date.pivot (d : Date) : Int := d.number + civilPivot

def Date.ofPivot? (pivot : Int) : Option Date := Date.ofNumber? (pivot - civilPivot)

def Date.ymd (d : Date) : Ymd := ⟨d.year, d.month, d.day⟩

def weekdayOfPivot (pivot : Int) : Weekday := Weekday.ofMonday pivot

inductive CalendarSystem where
  | gregorian
  | julian
  | islamic
  | table (calendar : TableCalendar)

namespace CalendarSystem

def civilId : String := "gregorian"

def julianId : String := "julian"

def islamicId : String := "islamic"

def id : CalendarSystem → String
  | .gregorian => civilId
  | .julian => julianId
  | .islamic => islamicId
  | .table c => c.id

def isLeap : CalendarSystem → Int → Bool
  | .gregorian, year => Civil.isLeap year
  | .julian, year => Julian.isLeap year
  | .islamic, year => Islamic.isLeap year
  | .table c, year => c.rule.isLeap year

def monthLengths : CalendarSystem → Int → List Nat
  | .gregorian, year => Civil.monthLengths (Civil.isLeap year)
  | .julian, year => Julian.monthLengths year
  | .islamic, year => Islamic.monthLengths year
  | .table c, year => c.monthLengths year

def monthCount : CalendarSystem → Nat
  | .table c => c.months.length
  | _ => 12

/-- Whether the system's tables have this day. The civil one has days in years that no `Date`
reaches. -/
def HasDay (s : CalendarSystem) (date : Ymd) : Prop :=
  MonthTable.HasDay (s.monthLengths date.year) date.month date.day

instance (s : CalendarSystem) (date : Ymd) : Decidable (s.HasDay date) :=
  inferInstanceAs (Decidable (MonthTable.HasDay _ _ _))

def toPivot (s : CalendarSystem) (date : Ymd) : Except ChronologyError Int :=
  let invalid := ChronologyError.invalidDate s.id date.year date.month date.day
  match s with
  | .gregorian =>
    match Date.ofYmd? date.year date.month date.day with
    | none => .error invalid
    | some d => .ok d.pivot
  | .julian => if s.HasDay date then .ok (Julian.pivotOf date) else .error invalid
  | .islamic => if s.HasDay date then .ok (Islamic.pivotOf date) else .error invalid
  | .table c => if s.HasDay date then .ok (c.pivotOf date) else .error invalid

def ofPivot? : CalendarSystem → Int → Option Ymd
  | .gregorian, pivot => (Date.ofPivot? pivot).map Date.ymd
  | .julian, pivot => Julian.ofPivot? pivot
  | .islamic, pivot => Islamic.ofPivot? pivot
  | .table c, pivot => c.ofPivot? pivot

end CalendarSystem

structure SystemDate where
  system : String
  ymd : Ymd
deriving DecidableEq, Repr

namespace SystemDate

def civil (d : Date) : SystemDate := ⟨CalendarSystem.civilId, d.ymd⟩

def isCivil (d : SystemDate) : Bool := d.system == CalendarSystem.civilId

def toDate? (d : SystemDate) : Option Date :=
  if d.isCivil then Date.ofYmd? d.ymd.year d.ymd.month d.ymd.day else none

def text (d : SystemDate) : String :=
  d.system ++ String.ofList (':' :: (Text.paddedInteger 4 d.ymd.year ++
    '-' :: (Text.padded 2 d.ymd.month ++ '-' :: Text.padded 2 d.ymd.day)))

def signed (system : String) (pivot : Int) : Option Ymd → Except ChronologyError SystemDate
  | none => .error (.pivotOutOfRange system pivot)
  | some ymd => .ok ⟨system, ymd⟩

end SystemDate

namespace CalendarSystem

def ofPivot : CalendarSystem → Int → Except ChronologyError SystemDate
  | .gregorian, pivot => SystemDate.signed civilId pivot ((Date.ofPivot? pivot).map Date.ymd)
  | .julian, pivot => SystemDate.signed julianId pivot (Julian.ofPivot? pivot)
  | .islamic, pivot => SystemDate.signed islamicId pivot (Islamic.ofPivot? pivot)
  | .table c, pivot => SystemDate.signed c.id pivot (c.ofPivot? pivot)

theorem ofPivot_eq (s : CalendarSystem) (pivot : Int) :
    s.ofPivot pivot = SystemDate.signed s.id pivot (s.ofPivot? pivot) := by
  cases s <;> rfl

end CalendarSystem

end Holidays
