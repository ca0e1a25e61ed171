import Holidays.Civil.Date
import Holidays.Text.Numeral
import Holidays.Text.Space

/-!
Dates as text. Written: four digits of year, two of month and day; a year outside 0 .. 9999 carries
a sign. Read: leading zeros may be missing and blanks may stand before each field and each dash.
-/
namespace Holidays

namespace Date

def yearChars (year : Int) : List Char :=
  if 0 ≤ year ∧ year ≤ 9999 then Text.padded 4 year.natAbs
  else (if year < 0 then '-' else '+') :: Text.padded 4 year.natAbs

def chars (d : Date) : List Char :=
  yearChars d.year ++ '-' :: (Text.padded 2 d.month ++ '-' :: Text.padded 2 d.day)

def text (d : Date) : String := String.ofList d.chars

/-- A year at the front: up to four digits, or a sign and any number of them. -/
def yearField? (cs : List Char) : Option (Int × List Char) :=
  match Text.dropSpaces cs with
  | '-' :: rest => (Text.numeralUpTo? rest.length rest).map fun (n, left) => (-(n : Int), left)
  | '+' :: rest => (Text.numeralUpTo? rest.length rest).map fun (n, left) => ((n : Int), left)
  | cs => (Text.numeralUpTo? 4 cs).map fun (n, left) => ((n : Int), left)

def dash? (cs : List Char) : Option (List Char) :=
  match Text.dropSpaces cs with
  | '-' :: rest => some rest
  | _ => none

def fields? (cs : List Char) : Option (Int × Nat × Nat) := do
  let (year, cs) ← yearField? cs
  let cs ← dash? cs
  let (month, cs) ← Text.numeralUpTo? 2 (Text.dropSpaces cs)
  let cs ← dash? cs
  let (day, cs) ← Text.numeralUpTo? 2 (Text.dropSpaces cs)
  if Text.dropSpaces cs = [] then some (year, month, day) else none

def ofText? (s : String) : Option Date := do
  let (year, month, day) ← fields? s.toList
  ofYmd? year month day

end Date

end Holidays
