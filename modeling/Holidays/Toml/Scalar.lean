import Holidays.Settings.Value
import Holidays.Text.Reader
import Holidays.Toml.Moment

namespace Holidays.Toml

def ungrouped? (isDigit : Char → Bool) : List Char → Option (List Char)
  | [] => none
  | [c] => if isDigit c then some [c] else none
  | c :: '_' :: cs => if isDigit c then (ungrouped? isDigit cs).map (c :: ·) else none
  | c :: cs => if isDigit c then (ungrouped? isDigit cs).map (c :: ·) else none

def whole? (cs : List Char) : Option (List Char) :=
  (ungrouped? Char.isDigit cs).filter fun ds => ds.head? ≠ some '0' || ds.length = 1

def inBase? (base : Nat) (cs : List Char) : Option Nat :=
  let isDigit (c : Char) := (Text.hexValue? c).any (· < base)
  (ungrouped? isDigit cs).bind fun ds =>
    ds.foldlM (fun n c => (Text.hexValue? c).map (base * n + ·)) 0

def natural? : List Char → Option Nat
  | '0' :: 'x' :: cs => inBase? 16 cs
  | '0' :: 'o' :: cs => inBase? 8 cs
  | '0' :: 'b' :: cs => inBase? 2 cs
  | cs => (whole? cs).map fun ds => Nat.ofDigitChars 10 ds 0

/-- An integer of 64 bits; only a decimal one may have a sign. -/
def integer? (cs : List Char) : Option Int :=
  let (negative, size) := Number.signed cs
  (if size = cs then natural? cs else (whole? size).map fun ds => Nat.ofDigitChars 10 ds 0).bind
    fun n => fit64? (if negative then -n else n)

def isPowerMark (c : Char) : Bool := c == 'e' || c == 'E'

def fraction? : List Char → Option (List Char × List Char)
  | '.' :: cs => (ungrouped? Char.isDigit (cs.takeWhile (!isPowerMark ·))).map fun ds =>
      (ds, cs.dropWhile (!isPowerMark ·))
  | cs => some ([], cs)

def power? : List Char → Option Int
  | [] => some 0
  | c :: cs =>
    if isPowerMark c then
      let (negative, size) := Number.signed cs
      (ungrouped? Char.isDigit size).map fun ds =>
        let n : Int := Nat.ofDigitChars 10 ds 0
        if negative then -n else n
    else none

/-- A number with a fraction or a power; unlike a word of the environment it has to be finite. -/
def fractional? (cs : List Char) : Option Number := do
  let (negative, size) := Number.signed cs
  let isDone (c : Char) := c == '.' || isPowerMark c
  let whole ← whole? (size.takeWhile (!isDone ·))
  if size.all (!isDone ·) then none
  let (fraction, rest) ← fraction? (size.dropWhile (!isDone ·))
  let power ← power? rest
  let digits := Nat.ofDigitChars 10 (whole ++ fraction) 0
  let size ← (Decimal.mk digits (power - fraction.length)).double?
  return .finite negative size

def special? (cs : List Char) : Option Number :=
  let (negative, size) := Number.signed cs
  match size with
  | ['i', 'n', 'f'] => some (.infinite negative)
  | ['n', 'a', 'n'] => some .nan
  | _ => none

def scalar? (cs : List Char) : Option Setting :=
  match cs with
  | ['t', 'r', 'u', 'e'] => some (.flag true)
  | ['f', 'a', 'l', 's', 'e'] => some (.flag false)
  | cs =>
    (integer? cs).map .integer <|> ((fractional? cs).map .number <|> ((special? cs).map .number <|>
      (moment? cs).map fun text => .text (String.ofList text)))

end Holidays.Toml
