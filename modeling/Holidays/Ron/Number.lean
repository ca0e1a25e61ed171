import Holidays.Ron.Quoted
import Holidays.Settings.Number
import Holidays.Settings.Value

namespace Holidays.Ron

structure IntegerKind where
  suffix : List Char
  signed : Bool
  bits : Nat

def IntegerKind.fits (k : IntegerKind) (n : Int) : Bool :=
  if k.signed then -((1 <<< (k.bits - 1) : Nat) : Int) ≤ n && n < ((1 <<< (k.bits - 1) : Nat) : Int)
  else 0 ≤ n && n < ((1 <<< k.bits : Nat) : Int)

def integerKinds : List IntegerKind :=
  [⟨['i', '8'], true, 8⟩, ⟨['i', '1', '6'], true, 16⟩, ⟨['i', '3', '2'], true, 32⟩,
    ⟨['i', '6', '4'], true, 64⟩, ⟨['u', '8'], false, 8⟩, ⟨['u', '1', '6'], false, 16⟩,
    ⟨['u', '3', '2'], false, 32⟩, ⟨['u', '6', '4'], false, 64⟩]

def isDigit (c : Char) : Bool := (Text.hexValue? c).isSome || c == '_'

def dropSign : List Char → List Char
  | '-' :: cs | '+' :: cs => cs
  | cs => cs

def base : List Char → Nat × List Char
  | '0' :: 'b' :: cs => (2, cs)
  | '0' :: 'o' :: cs => (8, cs)
  | '0' :: 'x' :: cs => (16, cs)
  | cs => (10, cs)

def digits? (base : Nat) (cs : List Char) : Option Nat :=
  if cs.head?.all (· == '_') then none
  else (cs.filter (· ≠ '_')).foldlM (fun n c =>
    ((Text.hexValue? c).filter (· < base)).map (base * n + ·)) 0

/-- An integer that its kind holds; without a suffix, one of 64 bits. -/
def integer (cs : List Char) : Option (Setting × List Char) := do
  let negative := cs.head? = some '-'
  let (base, size) := base (dropSign cs)
  let n ← digits? base (size.takeWhile isDigit)
  let rest := size.dropWhile isDigit
  let kind := (integerKinds.find? (·.suffix.isPrefixOf rest)).getD ⟨[], negative, 64⟩
  let value : Int := if negative then -n else n
  if kind.fits value then some (.integer value, rest.drop kind.suffix.length) else none

def isFractionChar (c : Char) : Bool :=
  c.isDigit || c == 'e' || c == 'E' || c == '.' || c == '+' || c == '-' || c == '_'

/-- A fraction without its underscores, none of which is in front or follows a point. -/
def ungrouped? (allowed : Bool) : List Char → Option (List Char)
  | [] => some []
  | c :: cs =>
    if c = '_' then if allowed then ungrouped? allowed cs else none
    else
      let next := if c = '.' then false else if c = '+' ∨ c = '-' then allowed else true
      (ungrouped? next cs).map (c :: ·)

/-- The nearest number with 24 bits, as a double. Beyond the greatest there is infinity. -/
def single (negative : Bool) (d : Decimal) : Number :=
  if d.digits = 0 ∨ d.places < -45 then .finite negative .zero
  else if 39 < d.places then .infinite negative
  else
    let num := d.digits * Nat.pow 10 d.exponent.toNat
    let den := Nat.pow 10 (-d.exponent).toNat
    let low : Int := max ((num.log2 : Int) - den.log2 - 24) (-149)
    let scaled (e : Int) : Nat × Nat := (num <<< (-e).toNat, den <<< e.toNat)
    let e := if (scaled low).1 < (scaled low).2 <<< 24 then low else low + 1
    let mantissa := roundedQuotient (scaled e).1 (scaled e).2
    if mantissa <<< e.toNat < 1 <<< 128 then
      .finite negative (.ofQuotient (mantissa <<< e.toNat) (1 <<< (-e).toNat))
    else .infinite negative

def width (isWordChar : Char → Bool) (cs : List Char) : Bool × List Char :=
  match cs.takeWhile isWordChar with
  | ['f', '3', '2'] => (true, cs.drop 3)
  | ['f', '6', '4'] => (false, cs.drop 3)
  | _ => (false, cs)

def special? (word : List Char) (negative : Bool) : Option Number :=
  match word with
  | ['i', 'n', 'f'] | ['i', 'n', 'f', 'f', '3', '2'] | ['i', 'n', 'f', 'f', '6', '4'] =>
    some (.infinite negative)
  | ['N', 'a', 'N'] | ['N', 'a', 'N', 'f', '3', '2'] | ['N', 'a', 'N', 'f', '6', '4'] => some .nan
  | _ => none

def fraction (isWordChar : Char → Bool) (cs : List Char) : Option (Setting × List Char) := do
  let size ← ungrouped? false (cs.takeWhile isFractionChar)
  let (negative, size) := Number.signed size
  let d ← Number.decimal? size
  let (small, rest) := width isWordChar (cs.dropWhile isFractionChar)
  return (.number (if small then single negative d else .ofDecimal negative d), rest)

def signedWord (isWordChar : Char → Bool) (cs : List Char) : Option (Setting × List Char) :=
  let size := dropSign cs
  (special? (size.takeWhile isWordChar) (cs.head? = some '-')).map fun n =>
    (.number n, size.dropWhile isWordChar)

def byte : List Char → Option (Setting × List Char)
  | 'b' :: '\'' :: '\\' :: cs =>
    match byteEscape? cs with
    | some (n, '\'' :: rest) => some (.integer n.toNat, rest)
    | _ => none
  | 'b' :: '\'' :: c :: '\'' :: rest =>
    if c.toNat < 128 then some (.integer c.toNat, rest) else none
  | _ => none

/-- A number: an integer unless more characters of a fraction stand in front than digits do, or no
integer of the kind holds it. -/
def number (isWordChar : Char → Bool) (cs : List Char) : Option (Setting × List Char) :=
  let size := dropSign cs
  let fractional := fraction isWordChar cs <|> signedWord isWordChar cs
  if (size.takeWhile isDigit).length < (size.takeWhile isFractionChar).length then fractional
  else integer cs <|> fractional

end Holidays.Ron
