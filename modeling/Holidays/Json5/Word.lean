import Holidays.Text.Name
import Holidays.Text.Reader

/-!
Quoted strings and bare names of JSON5. An escape of four hexadecimal digits is a unit of sixteen
bits, and two halves of a pair make one character.
-/
namespace Holidays.Json5

open Text (Rest Reader)

inductive Part where
  | char (c : Char)
  | unit (n : Nat)

/-- The characters that the parts make; half of a pair on its own makes none. -/
def joined? : List Part → Option (List Char)
  | [] => some []
  | .char c :: parts => (joined? parts).map (c :: ·)
  | .unit n :: parts =>
    if 0xD800 ≤ n ∧ n < 0xDC00 then
      match parts with
      | .unit m :: parts =>
        if 0xDC00 ≤ m ∧ m < 0xE000 then
          (joined? parts).map (Char.ofNat (0x10000 + (n - 0xD800) * 0x400 + (m - 0xDC00)) :: ·)
        else none
      | _ => none
    else if 0xDC00 ≤ n ∧ n < 0xE000 then none
    else (joined? parts).map (Char.ofNat n :: ·)

def isLineEnd (c : Char) : Bool := c == '\n' || c == '\r' || c == '\u2028' || c == '\u2029'

def escape? : List Char → Option (List Part × List Char)
  | 'b' :: rest => some ([.char '\x08'], rest)
  | 'f' :: rest => some ([.char '\x0c'], rest)
  | 'n' :: rest => some ([.char '\n'], rest)
  | 'r' :: rest => some ([.char '\r'], rest)
  | 't' :: rest => some ([.char '\t'], rest)
  | 'v' :: rest => some ([.char '\x0b'], rest)
  | '0' :: rest => some ([.char '\x00'], rest)
  | 'x' :: a :: b :: rest => (Text.hexChar? [a, b]).map fun c => ([.char c], rest)
  | 'u' :: a :: b :: c :: d :: rest => (Text.hexNumber? [a, b, c, d]).map fun n => ([.unit n], rest)
  | '\r' :: '\n' :: rest => some ([], rest)
  | c :: rest =>
    if isLineEnd c then some ([], rest)
    else if c.isDigit ∨ c = 'x' ∨ c = 'u' then none
    else some ([.char c], rest)
  | [] => none

theorem length_lt_of_escape {cs rest : List Char} {parts : List Part}
    (h : escape? cs = some (parts, rest)) : rest.length < cs.length := by
  unfold escape? at h
  split at h <;> simp_all <;> grind

def quotedParts (mark : Char) (taken : List Part) (cs : List Char) :
    Option (List Part × List Char) :=
  match cs with
  | [] => none
  | c :: rest =>
    if c = mark then some (taken.reverse, rest)
    else if c = '\\' then
      match h : escape? rest with
      | none => none
      | some (parts, left) =>
        have := length_lt_of_escape h
        quotedParts mark (parts.reverse ++ taken) left
    else if isLineEnd c then none
    else quotedParts mark (.char c :: taken) rest
termination_by cs.length

theorem length_lt_of_quotedParts {mark : Char} {taken parts : List Part} {cs rest : List Char}
    (h : quotedParts mark taken cs = some (parts, rest)) : rest.length < cs.length := by
  fun_induction quotedParts mark taken cs <;> grind

def quoted : Reader String
  | [] => none
  | c :: rest =>
    if c = '"' ∨ c = '\'' then
      match h : quotedParts c [] rest with
      | none => none
      | some (parts, left) => (joined? parts).map fun found => (String.ofList found, ⟨left, by
          have := length_lt_of_quotedParts h; rw [List.length_cons]; omega⟩)
    else none

def isNameStart (c : Char) : Bool := Text.isLetter c || c == '$' || c == '_'

/-- What may follow the start of a name; two more join letters without a width. -/
def isNameChar (c : Char) : Bool :=
  isNameStart c || Text.isNameMark c || Text.isDiacritic c || c == '\u200c' || c == '\u200d'

def nameParts (isPart : Char → Bool) : List Char → List Part × List Char
  | '\\' :: 'u' :: a :: b :: c :: d :: rest =>
    match Text.hexNumber? [a, b, c, d] with
    | none => ([], '\\' :: 'u' :: a :: b :: c :: d :: rest)
    | some n => (.unit n :: (nameParts isNameChar rest).1, (nameParts isNameChar rest).2)
  | c :: rest =>
    if isPart c then (.char c :: (nameParts isNameChar rest).1, (nameParts isNameChar rest).2)
    else ([], c :: rest)
  | [] => ([], [])

def bare : Reader String := fun cs =>
  let (parts, rest) := nameParts isNameStart cs
  if h : rest.length < cs.length then
    (joined? parts).map fun found => (String.ofList found, ⟨rest, h⟩)
  else none

end Holidays.Json5
