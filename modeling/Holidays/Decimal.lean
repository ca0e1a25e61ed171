import Holidays.Text.Numeral

namespace Holidays

structure Decimal where
  digits : Nat
  exponent : Int
deriving DecidableEq

/-- The number `mantissa * 2 ^ exponent`; the mantissa has 53 bits unless the exponent is the
least, -1074. -/
structure Double where
  mantissa : Nat
  exponent : Int
deriving DecidableEq, Repr

def roundedQuotient (n d : Nat) : Nat :=
  if 2 * (n % d) < d ∨ (2 * (n % d) = d ∧ n / d % 2 = 0) then n / d else n / d + 1

namespace Double

def zero : Double := ⟨0, -1074⟩

def ofQuotient (num den : Nat) : Double :=
  let low : Int := max ((num.log2 : Int) - den.log2 - 53) (-1074)
  let scaled (e : Int) : Nat × Nat := (num <<< (-e).toNat, den <<< e.toNat)
  let e := if (scaled low).1 < (scaled low).2 <<< 53 then low else low + 1
  let mantissa := roundedQuotient (scaled e).1 (scaled e).2
  if mantissa = 0 then zero
  else if mantissa = 1 <<< 53 then ⟨1 <<< 52, e + 1⟩ else ⟨mantissa, e⟩

def IsFinite (x : Double) : Prop := x.exponent ≤ 971

instance (x : Double) : Decidable x.IsFinite := inferInstanceAs (Decidable (_ ≤ _))

def mul (x y : Double) : Double :=
  let exponent := x.exponent + y.exponent
  ofQuotient ((x.mantissa * y.mantissa) <<< exponent.toNat) (1 <<< (-exponent).toNat)

def div (x y : Double) : Double :=
  let exponent := x.exponent - y.exponent
  ofQuotient (x.mantissa <<< exponent.toNat) (y.mantissa <<< (-exponent).toNat)

end Double

namespace Decimal

/-- How many digits stand before the point; below one, less the zeros after it. -/
def places (d : Decimal) : Int := (Text.naturalChars d.digits).length + d.exponent

def nearest (d : Decimal) : Double :=
  .ofQuotient (d.digits * Nat.pow 10 d.exponent.toNat) (Nat.pow 10 (-d.exponent).toNat)

/-- The nearest finite double. Far from the limits the number of places decides, so that no huge
power is computed. -/
def double? (d : Decimal) : Option Double :=
  if d.digits = 0 ∨ d.places < -323 then some .zero
  else if 309 < d.places then none
  else
    let x := d.nearest
    if x.IsFinite then some x else none

/-- Without an exponent: zeros fill the places up to the point, and none end a fraction. -/
def chars (d : Decimal) : List Char :=
  if 0 ≤ d.exponent then Text.naturalChars (d.digits * Nat.pow 10 d.exponent.toNat)
  else
    let after := (-d.exponent).toNat
    let all := Text.padded (after + 1) d.digits
    let fraction := ((all.drop (all.length - after)).reverse.dropWhile (· = '0')).reverse
    let whole := all.take (all.length - after)
    if fraction = [] then whole else whole ++ '.' :: fraction

end Decimal

namespace Double

/-- In units of `10 ^ -1074`, of which every double is a whole number. -/
def units (x : Double) : Nat := x.mantissa <<< (x.exponent + 1074).toNat * Nat.pow 5 1074

/-- The two decimals of `size` digits around `x`, the nearer one first and of two equally near the
upper one. -/
def around (x : Double) (size : Nat) : List Decimal :=
  let cut := (Text.naturalChars x.units).length - size
  let step := Nat.pow 10 cut
  let below := x.units / step
  let exponent : Int := cut - 1074
  if 2 * (x.units % step) < step then [⟨below, exponent⟩, ⟨below + 1, exponent⟩]
  else [⟨below + 1, exponent⟩, ⟨below, exponent⟩]

/-- The decimal of the fewest digits whose nearest double is `x`; seventeen digits are enough. -/
def shortest (x : Double) : Decimal :=
  (((List.range' 1 17).flatMap x.around).find? fun d => d.nearest = x).getD ⟨x.units, -1074⟩

end Double

end Holidays
