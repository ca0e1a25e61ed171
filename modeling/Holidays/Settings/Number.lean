import Holidays.Decimal
import Holidays.Text.Reader
import Holidays.Width

namespace Holidays

inductive Number where
  | nan
  | infinite (negative : Bool)
  | finite (negative : Bool) (size : Double)
deriving DecidableEq

namespace Number

def ofDecimal (negative : Bool) (d : Decimal) : Number :=
  match d.double? with
  | none => .infinite negative
  | some size => .finite negative size

def isZero : Number → Bool
  | .finite _ size => size.mantissa = 0
  | _ => false

def text : Number → String
  | .nan => "NaN"
  | .infinite negative => if negative then "-inf" else "inf"
  | .finite negative size =>
    String.ofList (if negative then '-' :: size.shortest.chars else size.shortest.chars)

def signed : List Char → Bool × List Char
  | '-' :: cs => (true, cs)
  | '+' :: cs => (false, cs)
  | cs => (false, cs)

def digits? (cs : List Char) : Option Nat :=
  if cs ≠ [] ∧ cs.all Char.isDigit then some (Nat.ofDigitChars 10 cs 0) else none

def integer? (base : Nat) (cs : List Char) : Option Int :=
  let (negative, digits) := signed cs
  if digits = [] then none
  else
    (digits.foldlM (fun n c => ((Text.hexValue? c).filter (· < base)).map (base * n + ·)) 0).bind
      fun (n : Nat) => fit64? (if negative then -n else n)

def power? (cs : List Char) : Option Int :=
  let (negative, cs) := signed cs
  (digits? cs).map fun n => if negative then -n else n

/-- Digits with at most one point, before or after which they may be missing, and a power. -/
def decimal? (cs : List Char) : Option Decimal := do
  let whole := cs.takeWhile Char.isDigit
  let rest := cs.dropWhile Char.isDigit
  let (fraction, rest) := match rest with
    | '.' :: rest => (rest.takeWhile Char.isDigit, rest.dropWhile Char.isDigit)
    | rest => ([], rest)
  let digits ← digits? (whole ++ fraction)
  let power ← match rest with
    | [] => some 0
    | c :: rest => if c = 'e' ∨ c = 'E' then power? rest else none
  return ⟨digits, power - fraction.length⟩

def ofChars? (cs : List Char) : Option Number :=
  let (negative, size) := signed cs
  match size.map Char.toLower with
  | ['n', 'a', 'n'] => some .nan
  | ['i', 'n', 'f'] | ['i', 'n', 'f', 'i', 'n', 'i', 't', 'y'] => some (.infinite negative)
  | _ => (decimal? size).map (ofDecimal negative)

end Number

end Holidays
