import Holidays.Chronology.Registry

/-!
Easter Sunday by the Gregorian and by the Julian computus. Every year has both; only the conversion
to a civil date can fail.
-/
namespace Holidays.Easter

def western (year : Int) : Nat × Nat :=
  let golden := year % 19
  let century := year / 100
  let inCentury := year % 100
  let leapCenturies := century / 4
  let moonShift := (century - (century + 8) / 25 + 1) / 3
  let epact := (19 * golden + century - leapCenturies - moonShift + 15) % 30
  let weekday := (32 + 2 * (century % 4) + 2 * (inCentury / 4) - epact - inCentury % 4) % 7
  let late := (golden + 11 * epact + 22 * weekday) / 451
  let n := epact + weekday - 7 * late + 114
  ((n / 31).toNat, (n % 31 + 1).toNat)

def western? (year : Int) : Option Date :=
  let (month, day) := western year
  Date.ofYmd? year month day

def julian (year : Int) : Nat × Nat :=
  let moon := (19 * (year % 19) + 15) % 30
  let weekday := (2 * (year % 4) + 4 * (year % 7) - moon + 34) % 7
  let n := moon + weekday + 114
  ((n / 31).toNat, (n % 31 + 1).toNat)

end Holidays.Easter

namespace Holidays

inductive EasterFormula where
  | western
  | orthodox
deriving DecidableEq, Repr

namespace EasterFormula

/-- Blanks around a tag and the case of its ASCII letters do not matter. -/
def ofTag? (tag : String) : Option EasterFormula :=
  match String.ofList ((Text.trimChars tag.toList).map Char.toUpper) with
  | "EASTER" => some .western
  | "EASTER_WESTERN" => some .western
  | "EASTER_ORTHODOX" => some .orthodox
  | _ => none

def dateIn (f : EasterFormula) (registry : Registry) (year : Int) :
    Except ChronologyError (Option Date) :=
  match f with
  | .western => .ok (Easter.western? year)
  | .orthodox =>
    let (month, day) := Easter.julian year
    match registry.toCivil ⟨CalendarSystem.julianId, ⟨year, month, day⟩⟩ with
    | .ok date => .ok (some date)
    | .error (.pivotOutOfRange _ _) => .ok none
    | .error e => .error e

end EasterFormula

end Holidays
