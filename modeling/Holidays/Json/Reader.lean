import Holidays.Decimal
import Holidays.Json.Value
import Holidays.Text.Reader
import Holidays.Width

/-!
Reading JSON text. Containers nest at most `maxDepth` deep. A number that is no integer is read as a
double in two roundings, and has to be finite.
-/
namespace Holidays.Json

open Text (Rest Reader)

def isBlank (c : Char) : Bool := c == ' ' || c == '\n' || c == '\t' || c == '\r'

def dropBlanks (cs : List Char) : List Char := cs.dropWhile isBlank

theorem length_dropBlanks_le (cs : List Char) : (dropBlanks cs).length ≤ cs.length :=
  (List.dropWhile_sublist _).length_le

def simpleEscape? (c : Char) : Option Char :=
  match c with
  | '"' => some '"'
  | '\\' => some '\\'
  | '/' => some '/'
  | 'b' => some '\x08'
  | 'f' => some '\x0c'
  | 'n' => some '\n'
  | 'r' => some '\r'
  | 't' => some '\t'
  | _ => none

/-- The characters of a string up to its closing quote, after those in `taken`, which stand in
reverse. Half a surrogate pair on its own is no character. -/
def stringChars (taken : List Char) : List Char → Option (List Char × List Char)
  | [] => none
  | '"' :: rest => some (taken.reverse, rest)
  | '\\' :: 'u' :: a :: b :: c :: d :: rest =>
    match Text.hexNumber? [a, b, c, d] with
    | none => none
    | some high =>
      if 0xD800 ≤ high ∧ high < 0xDC00 then
        match rest with
        | '\\' :: 'u' :: e :: f :: g :: h :: rest =>
          match Text.hexNumber? [e, f, g, h] with
          | none => none
          | some low =>
            if 0xDC00 ≤ low ∧ low < 0xE000 then
              stringChars (Char.ofNat (0x10000 + (high - 0xD800) * 0x400 + (low - 0xDC00)) :: taken)
                rest
            else none
        | _ => none
      else if 0xDC00 ≤ high ∧ high < 0xE000 then none
      else stringChars (Char.ofNat high :: taken) rest
  | '\\' :: c :: rest =>
    match simpleEscape? c with
    | none => none
    | some c => stringChars (c :: taken) rest
  | c :: rest => if c.toNat < 32 then none else stringChars (c :: taken) rest

theorem length_lt_of_stringChars {taken cs found rest : List Char}
    (h : stringChars taken cs = some (found, rest)) : rest.length < cs.length := by
  fun_induction stringChars taken cs <;> simp_all <;> omega

def string (cs : List Char) : Option (String × Rest cs) :=
  match h : stringChars [] cs with
  | none => none
  | some (found, rest) => some (String.ofList found, ⟨rest, length_lt_of_stringChars h⟩)

/-- A number with digits appended as long as 64 bits hold it, and the digits left over. -/
def gather (n : Nat) : List Char → Nat × List Char
  | [] => (n, [])
  | c :: cs =>
    let longer := 10 * n + (c.toNat - '0'.toNat)
    if longer < 1 <<< 64 then gather longer cs else (n, c :: cs)

def powerOfTen (n : Nat) : Double := Decimal.nearest ⟨1, n⟩

def scaledDown (x : Double) (places : Nat) : Double :=
  if places ≤ 308 then x.div (powerOfTen places)
  else if x = .zero then x
  else scaledDown (x.div (powerOfTen 308)) (places - 308)
termination_by places

def scaled? (n : Nat) (power : Int) : Option Double :=
  let x := Decimal.nearest ⟨n, 0⟩
  if power < 0 then some (scaledDown x (-power).toNat)
  else if power ≤ 308 then (some (x.mul (powerOfTen power.toNat))).filter (·.IsFinite)
  else if n = 0 then some x else none

/-- The integer itself where 64 bits hold it; `-0` and larger ones count as other numbers. -/
def ofNumeral (negative : Bool) (digits : List Char) : Option Json :=
  let (n, left) := gather 0 digits
  if left = [] ∧ !negative then some (.int n)
  else if left = [] ∧ 0 < n ∧ n ≤ 1 <<< 63 then some (.int (-n))
  else (scaled? n left.length).map (.float negative)

/-- A number that has a fraction or an exponent. Digits beyond those that 64 bits hold do not count,
but for the places that they take before the point. -/
def ofParts (negative : Bool) (whole fraction : List Char) (exponent : Option (Bool × List Char)) :
    Option Json :=
  let (upper, left) := gather 0 whole
  let (n, unused) := gather upper fraction
  let shift : Int := left.length + unused.length - fraction.length
  match exponent with
  | none => (scaled? n shift).map (.float negative)
  | some (below, digits) =>
    let power : Int := Nat.ofDigitChars 10 digits 0
    if Fits32 power then
      (scaled? n (if below then shift - power else shift + power)).map (.float negative)
    else if n = 0 ∨ below then some (.float negative .zero)
    else none

def digitRun (cs : List Char) : Option (List Char × List Char) :=
  if cs.takeWhile Char.isDigit = [] then none
  else some (cs.takeWhile Char.isDigit, cs.dropWhile Char.isDigit)

theorem append_of_digitRun {cs ds rest : List Char} (h : digitRun cs = some (ds, rest)) :
    cs = ds ++ rest ∧ ds ≠ [] := by
  unfold digitRun at h
  split at h
  · contradiction
  · next found =>
    obtain ⟨rfl, rfl⟩ := Prod.mk.inj (Option.some.inj h)
    exact ⟨List.takeWhile_append_dropWhile.symm, found⟩

theorem length_lt_of_digitRun {cs ds rest : List Char} (h : digitRun cs = some (ds, rest)) :
    rest.length < cs.length := by
  obtain ⟨rfl, found⟩ := append_of_digitRun h
  have := List.length_pos_iff.2 found
  rw [List.length_append]
  omega

def wholePart : List Char → Option (List Char × List Char)
  | '0' :: rest => if rest.head?.any Char.isDigit then none else some (['0'], rest)
  | cs => digitRun cs

/-- The digits after a point, or none when there is no point; a bare point is refused. -/
def fractionPart : List Char → Option (List Char × List Char)
  | '.' :: rest => digitRun rest
  | cs => some ([], cs)

def power (cs : List Char) : Option ((Bool × List Char) × List Char) :=
  match cs with
  | '+' :: rest => (digitRun rest).map fun (ds, left) => ((false, ds), left)
  | '-' :: rest => (digitRun rest).map fun (ds, left) => ((true, ds), left)
  | cs => (digitRun cs).map fun (ds, left) => ((false, ds), left)

def exponentPart : List Char → Option (Option (Bool × List Char) × List Char)
  | 'e' :: rest => (power rest).map fun (p, left) => (some p, left)
  | 'E' :: rest => (power rest).map fun (p, left) => (some p, left)
  | cs => some (none, cs)

theorem length_lt_of_wholePart {cs ds rest : List Char} (h : wholePart cs = some (ds, rest)) :
    rest.length < cs.length := by
  unfold wholePart at h
  split at h
  · grind
  · exact length_lt_of_digitRun h

theorem length_le_of_fractionPart {cs ds rest : List Char}
    (h : fractionPart cs = some (ds, rest)) : rest.length ≤ cs.length := by
  unfold fractionPart at h
  split at h
  · have := length_lt_of_digitRun h
    rw [List.length_cons]
    omega
  · simp_all

theorem length_lt_of_power {cs rest : List Char} {p : Bool × List Char}
    (h : power cs = some (p, rest)) : rest.length < cs.length := by
  unfold power at h
  split at h <;> obtain ⟨⟨ds, left⟩, hrun, hp⟩ := Option.map_eq_some_iff.1 h <;>
    obtain ⟨-, rfl⟩ := Prod.mk.inj hp <;> have := length_lt_of_digitRun hrun <;> grind

theorem length_le_of_exponentPart {cs rest : List Char} {e : Option (Bool × List Char)}
    (h : exponentPart cs = some (e, rest)) : rest.length ≤ cs.length := by
  unfold exponentPart at h
  split at h
  · obtain ⟨⟨p, left⟩, hp, he⟩ := Option.map_eq_some_iff.1 h
    obtain ⟨-, rfl⟩ := Prod.mk.inj he
    have := length_lt_of_power hp
    grind
  · obtain ⟨⟨p, left⟩, hp, he⟩ := Option.map_eq_some_iff.1 h
    obtain ⟨-, rfl⟩ := Prod.mk.inj he
    have := length_lt_of_power hp
    grind
  · simp_all

def numeric (negative : Bool) (whole fraction : List Char) (exponent : Option (Bool × List Char)) :
    Option Json :=
  if fraction.isEmpty ∧ exponent.isNone then ofNumeral negative whole
  else ofParts negative whole fraction exponent

def unsigned (negative : Bool) (cs : List Char) : Option (Json × List Char) := do
  let (whole, afterWhole) ← wholePart cs
  let (fraction, afterFraction) ← fractionPart afterWhole
  let (exponent, rest) ← exponentPart afterFraction
  let value ← numeric negative whole fraction exponent
  return (value, rest)

theorem length_lt_of_unsigned {negative : Bool} {cs rest : List Char} {j : Json}
    (h : unsigned negative cs = some (j, rest)) : rest.length < cs.length := by
  simp only [unsigned, Option.bind_eq_bind, Option.bind_eq_some_iff, Option.pure_def,
    Option.some.injEq, Prod.mk.injEq] at h
  obtain ⟨⟨whole, afterWhole⟩, hw, ⟨fraction, afterFraction⟩, hf, ⟨e, left⟩, he, j, hj, rfl, rfl⟩ :=
    h
  have first := length_lt_of_wholePart hw
  have second := length_le_of_fractionPart hf
  have third := length_le_of_exponentPart he
  exact Nat.lt_of_le_of_lt (Nat.le_trans third second) first

def number (cs : List Char) : Option (Json × Rest cs) :=
  match cs with
  | '-' :: after =>
    match h : unsigned true after with
    | none => none
    | some (value, rest) => some (value, ⟨rest, by
        have := length_lt_of_unsigned h; rw [List.length_cons]; omega⟩)
  | cs =>
    match h : unsigned false cs with
    | none => none
    | some (value, rest) => some (value, ⟨rest, length_lt_of_unsigned h⟩)

def items (item : Reader Json) (cs : List Char) : Option (List Json × Rest cs) :=
  match item cs with
  | none => none
  | some (first, ⟨rest, shorter⟩) =>
    match h : dropBlanks rest with
    | ']' :: after => some ([first], ⟨after, by
        have := length_dropBlanks_le rest; simp only [h, List.length_cons] at this; omega⟩)
    | ',' :: after =>
      have smaller : after.length < cs.length := by
        have := length_dropBlanks_le rest; simp only [h, List.length_cons] at this; omega
      match items item after with
      | none => none
      | some (others, ⟨left, less⟩) => some (first :: others, ⟨left, by omega⟩)
    | _ => none
termination_by cs.length

def memberName (cs : List Char) : Option (String × Rest cs) :=
  match h : dropBlanks cs with
  | '"' :: rest =>
    match string rest with
    | none => none
    | some (name, ⟨after, shorter⟩) =>
      match h' : dropBlanks after with
      | ':' :: left => some (name, ⟨left, by
          have := length_dropBlanks_le cs
          have := length_dropBlanks_le after
          simp only [h, h', List.length_cons] at *
          omega⟩)
      | _ => none
  | _ => none

def members (item : Reader Json) (cs : List Char) : Option (List (String × Json) × Rest cs) :=
  match memberName cs with
  | none => none
  | some (name, ⟨body, named⟩) =>
    match item body with
    | none => none
    | some (value, ⟨rest, shorter⟩) =>
      match h : dropBlanks rest with
      | '\x7d' :: after => some ([(name, value)], ⟨after, by
          have := length_dropBlanks_le rest; simp only [h, List.length_cons] at this; omega⟩)
      | ',' :: after =>
        have smaller : after.length < cs.length := by
          have := length_dropBlanks_le rest; simp only [h, List.length_cons] at this; omega
        match members item after with
        | none => none
        | some (others, ⟨left, less⟩) => some ((name, value) :: others, ⟨left, by omega⟩)
      | _ => none
termination_by cs.length

def maxDepth : Nat := 127

def word (first : Char) (others : List Char) (value : Json) (rest : List Char) :
    Option (Json × Rest (first :: rest)) :=
  if others.isPrefixOf rest then
    some (value, ⟨rest.drop others.length, by rw [List.length_drop, List.length_cons]; omega⟩)
  else none

/-- A value by its first character, with the reader for what it contains; `none` in its place
refuses a container. -/
def body (inner : Option (Reader Json)) (c : Char) (rest : List Char) :
    Option (Json × Rest (c :: rest)) :=
  match c, inner with
  | 'n', _ => word 'n' ['u', 'l', 'l'] .null rest
  | 't', _ => word 't' ['r', 'u', 'e'] (.bool true) rest
  | 'f', _ => word 'f' ['a', 'l', 's', 'e'] (.bool false) rest
  | '"', _ => (string rest).map fun (s, ⟨left, less⟩) =>
      (.str s, ⟨left, by rw [List.length_cons]; omega⟩)
  | '[', none => none
  | '\x7b', none => none
  | '[', some item =>
    match h : dropBlanks rest with
    | ']' :: left => some (.arr [], ⟨left, by
        have := length_dropBlanks_le rest; simp only [h, List.length_cons] at *; omega⟩)
    | _ => (items item rest).map fun (found, ⟨left, less⟩) =>
        (.arr found, ⟨left, by rw [List.length_cons]; omega⟩)
  | '\x7b', some item =>
    match h : dropBlanks rest with
    | '\x7d' :: left => some (.obj [], ⟨left, by
        have := length_dropBlanks_le rest; simp only [h, List.length_cons] at *; omega⟩)
    | _ => (members item rest).map fun (found, ⟨left, less⟩) =>
        (.obj found, ⟨left, by rw [List.length_cons]; omega⟩)
  | c, _ => number (c :: rest)

def spaced (inner : Option (Reader Json)) : Reader Json := fun cs =>
  match h : dropBlanks cs with
  | [] => none
  | c :: rest => (body inner c rest).map fun (j, ⟨left, less⟩) =>
      (j, ⟨left, by have := length_dropBlanks_le cs; rw [h] at this; omega⟩)

def value : Nat → Reader Json
  | 0 => spaced none
  | depth + 1 => spaced (some (value depth))

def front? (cs : List Char) : Option (Json × List Char) :=
  (value maxDepth cs).map fun (j, rest) => (j, rest.val)

def read? (text : String) : Option Json :=
  match value maxDepth text.toList with
  | none => none
  | some (j, rest) => if dropBlanks rest.val = [] then some j else none

end Holidays.Json
