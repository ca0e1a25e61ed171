import Holidays.Text.Reader

namespace Holidays.Toml

open Text (Rest Reader)

def isBlank (c : Char) : Bool := c == ' ' || c == '\t'

def isPlain (c : Char) : Bool := c == '\t' || (32 ≤ c.toNat && c.toNat ≠ 127)

def escape? : List Char → Option (Char × List Char)
  | 'b' :: rest => some ('\x08', rest)
  | 't' :: rest => some ('\t', rest)
  | 'n' :: rest => some ('\n', rest)
  | 'f' :: rest => some ('\x0c', rest)
  | 'r' :: rest => some ('\r', rest)
  | 'e' :: rest => some ('\x1b', rest)
  | '"' :: rest => some ('"', rest)
  | '\\' :: rest => some ('\\', rest)
  | 'x' :: a :: b :: rest => (Text.hexChar? [a, b]).map (·, rest)
  | 'u' :: a :: b :: c :: d :: rest => (Text.hexChar? [a, b, c, d]).map (·, rest)
  | 'U' :: a :: b :: c :: d :: e :: f :: g :: h :: rest =>
    (Text.hexChar? [a, b, c, d, e, f, g, h]).map (·, rest)
  | _ => none

theorem length_lt_of_escape {cs rest : List Char} {c : Char} (h : escape? cs = some (c, rest)) :
    rest.length < cs.length := by
  unfold escape? at h
  split at h <;> simp_all <;> grind

def line (mark : Char) (taken cs : List Char) : Option (String × List Char) :=
  match cs with
  | [] => none
  | c :: rest =>
    if c = mark then some (String.ofList taken.reverse, rest)
    else if c = '\\' ∧ mark = '"' then
      match h : escape? rest with
      | none => none
      | some (escaped, left) =>
        have := length_lt_of_escape h
        line mark (escaped :: taken) left
    else if isPlain c then line mark (c :: taken) rest
    else none
termination_by cs.length

def startsLine : List Char → Bool
  | '\n' :: _ => true
  | '\r' :: '\n' :: _ => true
  | _ => false

def dropLines : List Char → List Char
  | [] => []
  | '\r' :: '\n' :: cs => dropLines cs
  | c :: cs => if isBlank c ∨ c = '\n' then dropLines cs else c :: cs

theorem length_dropLines_le (cs : List Char) : (dropLines cs).length ≤ cs.length := by
  fun_induction dropLines cs <;> grind

/-- A string over several lines, up to three marks; one or two more before them belong to it. A
backslash at the end of a line hides the blanks and line breaks after it. -/
def block (mark : Char) (taken cs : List Char) : Option (String × List Char) :=
  match cs with
  | [] => none
  | c :: rest =>
    if c = mark then
      let marks := (rest.takeWhile (· = mark)).length + 1
      if marks < 3 then block mark (c :: taken) rest
      else
        let inner := min (marks - 3) 2
        some (String.ofList (taken.reverse ++ List.replicate inner mark), rest.drop (inner + 2))
    else if c = '\\' ∧ mark = '"' then
      if startsLine (rest.dropWhile isBlank) then
        have := length_dropLines_le rest
        block mark taken (dropLines rest)
      else
        match h : escape? rest with
        | none => none
        | some (escaped, left) =>
          have := length_lt_of_escape h
          block mark (escaped :: taken) left
    else if isPlain c ∨ startsLine (c :: rest) then block mark (c :: taken) rest
    else none
termination_by cs.length

theorem length_lt_of_line {mark : Char} {taken cs rest : List Char} {s : String}
    (h : line mark taken cs = some (s, rest)) : rest.length < cs.length := by
  fun_induction line mark taken cs <;> grind

theorem length_lt_of_block {mark : Char} {taken cs rest : List Char} {s : String}
    (h : block mark taken cs = some (s, rest)) : rest.length < cs.length := by
  fun_induction block mark taken cs <;> grind

def dropLineBreak : List Char → List Char
  | '\n' :: rest => rest
  | '\r' :: '\n' :: rest => rest
  | cs => cs

theorem length_dropLineBreak_le (cs : List Char) : (dropLineBreak cs).length ≤ cs.length := by
  unfold dropLineBreak
  split <;> grind

def quotedLine : Reader String
  | [] => none
  | c :: rest =>
    if c = '"' ∨ c = '\'' then
      match h : line c [] rest with
      | none => none
      | some (s, left) => some (s, ⟨left, by
          have := length_lt_of_line h; rw [List.length_cons]; omega⟩)
    else none

/-- A string of either kind, its opening marks included. A line break after three marks is
dropped. -/
def quoted : Reader String
  | a :: b :: c :: rest =>
    if a = b ∧ b = c ∧ (a = '"' ∨ a = '\'') then
      match h : block a [] (dropLineBreak rest) with
      | none => none
      | some (s, left) => some (s, ⟨left, by
          have := length_lt_of_block h
          have := length_dropLineBreak_le rest
          simp only [List.length_cons]; omega⟩)
    else quotedLine (a :: b :: c :: rest)
  | cs => quotedLine cs

end Holidays.Toml
