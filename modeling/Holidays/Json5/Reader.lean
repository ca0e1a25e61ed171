import Holidays.Json5.Word
import Holidays.Settings.Value
import Holidays.Text.Gap
import Holidays.Text.Space

namespace Holidays.Json5

open Text (Rest Reader)

def isBlank (c : Char) : Bool := (Text.isSpace c && c != '\x85') || c == '\ufeff'

def afterComment? : List Char → Option (List Char)
  | [] => none
  | '*' :: '/' :: rest => some rest
  | _ :: rest => afterComment? rest

theorem length_le_of_afterComment {cs rest : List Char} (h : afterComment? cs = some rest) :
    rest.length ≤ cs.length := by
  fun_induction afterComment? cs <;> grind

/-- What follows white space and comments; a comment that does not end is none. -/
def skip (cs : List Char) : List Char :=
  match cs with
  | [] => []
  | '/' :: '/' :: rest => skip (rest.dropWhile (!isLineEnd ·))
  | '/' :: '*' :: rest =>
    match h : afterComment? rest with
    | none => '/' :: '*' :: rest
    | some left =>
      have := length_le_of_afterComment h
      skip left
  | c :: rest => if isBlank c then skip rest else c :: rest
termination_by cs.length
decreasing_by
  · have : (rest.dropWhile (!isLineEnd ·)).length ≤ rest.length :=
      (List.dropWhile_sublist _).length_le
    simp only [List.length_cons]
    omega
  · simp only [List.length_cons]; omega
  · simp

theorem length_skip_le (cs : List Char) : (skip cs).length ≤ cs.length := by
  fun_induction skip cs with
  | case2 rest ih =>
    have : (rest.dropWhile (!isLineEnd ·)).length ≤ rest.length :=
      (List.dropWhile_sublist _).length_le
    simp only [List.length_cons]
    omega
  | case4 rest left _ fewer ih => simp only [List.length_cons]; omega
  | case5 c rest _ _ _ ih => simp only [List.length_cons]; omega
  | _ => simp

def gap : Text.Gap := ⟨skip, length_skip_le⟩

def hex? (digits : List Char) : Option Setting :=
  if digits = [] then none
  else ((Text.hexNumber? digits).filter (· < 1 <<< 32)).map fun n => .integer n

def isFractional (c : Char) : Bool := c == '.' || c == 'e' || c == 'E'

/-- A decimal number, whose whole part does not begin with a zero unless it is one. Without point
and power it is an integer of 64 bits, else it has to be finite. -/
def decimal? (cs : List Char) : Option Setting := do
  let (negative, size) := Number.signed cs
  let whole := size.takeWhile Char.isDigit
  let d ← if whole.head? = some '0' ∧ 1 < whole.length then none else Number.decimal? size
  if size.any isFractional then (d.double?).map fun size => .number (.finite negative size)
  else (fit64? (if negative then -d.digits else d.digits)).map .integer

def number? (word : List Char) : Option Setting :=
  match word with
  | ['I', 'n', 'f', 'i', 'n', 'i', 't', 'y'] => some (.number (.infinite false))
  | ['-', 'I', 'n', 'f', 'i', 'n', 'i', 't', 'y'] => some (.number (.infinite true))
  | ['N', 'a', 'N'] | ['-', 'N', 'a', 'N'] => some (.number .nan)
  | '0' :: 'x' :: digits | '0' :: 'X' :: digits => hex? digits
  | word => decimal? word

def scalar? (word : List Char) : Option Setting :=
  match word with
  | ['n', 'u', 'l', 'l'] => some .absent
  | ['t', 'r', 'u', 'e'] => some (.flag true)
  | ['f', 'a', 'l', 's', 'e'] => some (.flag false)
  | word => number? word

def isWordChar (c : Char) : Bool := c.isAlphanum || c == '+' || c == '-' || c == '.'

def scalar : Reader Setting := fun cs =>
  match Text.run isWordChar cs with
  | none => none
  | some (word, rest) => (scalar? word).map fun value => (value, rest)

def name : Reader String := fun cs => quoted cs <|> bare cs

def body (inner : Reader Setting) : Reader Setting
  | '[' :: rest => Text.behind .list (gap.items inner ']' rest)
  | '\x7b' :: rest => Text.behind .tableOf (gap.items (gap.pair name ':' inner) '\x7d' rest)
  | cs => (quoted cs).map (Prod.map .text id) <|> scalar cs

def value : Nat → Reader Setting
  | 0 => fun _ => none
  | depth + 1 => body (value depth)

/-- The settings of a text. A text is longer than what it contains is deep. -/
def read? (text : String) : Option (List (String × Setting)) :=
  match value (text.length + 1) (skip text.toList) with
  | some (.table entries, ⟨rest, _⟩) => if skip rest = [] then some entries else none
  | _ => none

end Holidays.Json5
