import Holidays.Civil.DateText
import Holidays.Settings.Number

namespace Holidays.Toml

def field? (count : Nat) (cs : List Char) : Option (Nat × List Char) :=
  let digits := cs.take count
  if digits.length = count then (Number.digits? digits).map (·, cs.drop count) else none

def two (n : Nat) : List Char := Text.padded 2 n

/-- The fraction of a second to nine digits. Zeros do not end it, but for one that stands alone. -/
def fractionText (digits : List Char) : List Char :=
  match ((digits.take 9).reverse.dropWhile (· = '0')).reverse with
  | [] => ['.', '0']
  | ds => '.' :: ds

def clock? (cs : List Char) : Option (List Char × List Char) := do
  let (hour, cs) ← field? 2 cs
  match cs with
  | ':' :: cs =>
    let (minute, cs) ← field? 2 cs
    if 24 ≤ hour ∨ 60 ≤ minute then none
    else match cs with
      | ':' :: cs =>
        let (second, cs) ← field? 2 cs
        if 60 < second then none
        else
          let start := two hour ++ ':' :: (two minute ++ ':' :: two second)
          match cs with
          | '.' :: cs =>
            let digits := cs.takeWhile Char.isDigit
            if digits = [] then none
            else some (start ++ fractionText digits, cs.dropWhile Char.isDigit)
          | cs => some (start, cs)
      | cs => some (two hour ++ ':' :: two minute, cs)
  | _ => none

/-- The distance from universal time that ends a point in time; none is written as `+00:00`. -/
def offset? : List Char → Option (List Char)
  | [] => some []
  | ['Z'] | ['z'] => some ['Z']
  | sign :: cs => do
    let (hour, cs) ← field? 2 cs
    match cs with
    | ':' :: cs =>
      let (minute, cs) ← field? 2 cs
      if (sign = '+' ∨ sign = '-') ∧ hour < 24 ∧ minute < 60 ∧ cs = [] then
        let sign := if hour = 0 ∧ minute = 0 then '+' else sign
        some (sign :: (two hour ++ ':' :: two minute))
      else none
    | _ => none

def day? (cs : List Char) : Option (List Char × List Char) := do
  let (year, cs) ← field? 4 cs
  match cs with
  | '-' :: cs =>
    let (month, cs) ← field? 2 cs
    match cs with
    | '-' :: cs =>
      let (day, cs) ← field? 2 cs
      let date ← Date.ofYmd? year month day
      return (date.chars, cs)
    | _ => none
  | _ => none

def moment? (cs : List Char) : Option (List Char) :=
  match day? cs with
  | none => (clock? cs).bind fun (time, rest) => if rest = [] then some time else none
  | some (day, []) => some day
  | some (day, c :: rest) =>
    if c = 'T' ∨ c = 't' ∨ c = ' ' then
      (clock? rest).bind fun (time, rest) =>
        (offset? rest).map fun zone => day ++ 'T' :: (time ++ zone)
    else none

end Holidays.Toml
