import Holidays.Text.Gap
import Holidays.Toml.Quoted
import Holidays.Toml.Scalar
import Holidays.Toml.Table

/-!
Reading a configuration file: headers and entries, one a line. Arrays and inline tables may run over
several lines, end in a comma and nest at most `maxDepth` deep; keys have at most as many parts.
-/
namespace Holidays.Toml

open Text (Rest Reader)

def skip : List Char → List Char
  | [] => []
  | '\r' :: '\n' :: cs => skip cs
  | c :: cs =>
    if c = '#' then skip (cs.dropWhile isPlain)
    else if isBlank c ∨ c = '\n' then skip cs
    else c :: cs
termination_by cs => cs.length
decreasing_by
  · simp only [List.length_cons]; omega
  · exact Nat.lt_succ_of_le (List.dropWhile_sublist _).length_le
  · simp

theorem length_skip_le (cs : List Char) : (skip cs).length ≤ cs.length := by
  fun_induction skip cs with
  | case1 => simp
  | case2 cs ih => simp only [List.length_cons]; omega
  | case3 cs _ ih =>
    have : (cs.dropWhile isPlain).length ≤ cs.length := (List.dropWhile_sublist _).length_le
    simp only [List.length_cons]
    omega
  | case4 c cs _ _ _ ih => simp only [List.length_cons]; omega
  | case5 => simp

def dropBlanks (cs : List Char) : List Char := cs.dropWhile isBlank

theorem length_dropBlanks_le (cs : List Char) : (dropBlanks cs).length ≤ cs.length :=
  (List.dropWhile_sublist _).length_le

def keyPart : Reader String := fun cs =>
  match quotedLine cs with
  | some found => some found
  | none => (Text.run SettingPath.isNameChar cs).map fun (name, rest) => (String.ofList name, rest)

def afterDot? (cs : List Char) : Option (Rest cs) :=
  have fewer := length_dropBlanks_le cs
  match h : dropBlanks cs with
  | '.' :: after => some ⟨after, by simp only [h, List.length_cons] at fewer; omega⟩
  | _ => none

def key (cs : List Char) : Option (Key × Rest cs) :=
  have fewer := length_dropBlanks_le cs
  match keyPart (dropBlanks cs) with
  | none => none
  | some (name, ⟨rest, less⟩) =>
    match afterDot? rest with
    | none => some (⟨[], name⟩, ⟨dropBlanks rest, by have := length_dropBlanks_le rest; omega⟩)
    | some ⟨after, smaller⟩ =>
      match key after with
      | none => none
      | some (k, ⟨left, lesser⟩) => some (⟨name :: k.path, k.name⟩, ⟨left, by omega⟩)
termination_by cs.length

def maxDepth : Nat := 80

def boundedKey (cs : List Char) : Option (Key × Rest cs) :=
  (key cs).filter fun found => found.1.names.length ≤ maxDepth

def gap : Text.Gap := ⟨skip, length_skip_le⟩

def pair (value : Reader Setting) : Reader (Key × Setting) :=
  (Text.Gap.ofKind isBlank).pair boundedKey '=' value

def isWordChar (c : Char) : Bool :=
  c.isAlphanum || c == '+' || c == '-' || c == '.' || c == ':' || c == '_'

def wordLength (cs : List Char) : Nat :=
  let word := cs.takeWhile isWordChar
  match (day? word).map Prod.snd, cs.drop word.length with
  | some [], ' ' :: c :: rest =>
    if c.isDigit then word.length + 1 + ((c :: rest).takeWhile isWordChar).length else word.length
  | _, _ => word.length

def scalar : Reader Setting := fun cs =>
  if h : (cs.drop (wordLength cs)).length < cs.length then
    (scalar? (cs.take (wordLength cs))).map fun s => (s, ⟨cs.drop (wordLength cs), h⟩)
  else none

/-- A value by its first character, with the reader for what it contains; `none` in its place
refuses a container. -/
def body (inner : Option (Reader Setting)) : Reader Setting
  | [] => none
  | c :: rest =>
    if c = '[' then do Text.behind .list (gap.items (← inner) ']' rest)
    else if c = '\x7b' then Text.behind id do
      let (found, left) ← gap.items (pair (← inner)) '\x7d' rest
      return (← inlineTable? found, left)
    else if c = '"' ∨ c = '\'' then (quoted (c :: rest)).map fun (s, left) => (.text s, left)
    else scalar (c :: rest)

def value : Nat → Reader Setting
  | 0 => body none
  | depth + 1 => body (some (value depth))

def statement (cs : List Char) : Option (Statement × Rest cs) :=
  match cs with
  | '[' :: '[' :: rest => (boundedKey rest).bind fun (k, ⟨left, less⟩) =>
      match left with
      | ']' :: ']' :: left => some (.tables k, ⟨left, by simp at *; omega⟩)
      | _ => none
  | '[' :: rest => (boundedKey rest).bind fun (k, ⟨left, less⟩) =>
      match left with
      | ']' :: left => some (.table k, ⟨left, by simp at *; omega⟩)
      | _ => none
  | cs => (pair (value maxDepth) cs).map fun ((k, v), rest) => (.entry k v, rest)

def endsLine (cs : List Char) : Bool :=
  match dropBlanks cs with
  | [] => true
  | '#' :: rest => let left := rest.dropWhile isPlain; left.isEmpty || startsLine left
  | cs => startsLine cs

def statements (cs : List Char) : Option (List Statement) :=
  if skip cs = [] then some []
  else
    match statement (skip cs) with
    | none => none
    | some (s, rest) =>
      if endsLine rest.val then (statements rest.val).map (s :: ·) else none
termination_by cs.length
decreasing_by exact Nat.lt_of_lt_of_le rest.property (length_skip_le cs)

def read? (text : String) : Option (List (String × Setting)) :=
  let cs := match text.toList with
    | '\ufeff' :: cs => cs
    | cs => cs
  (statements cs).bind ofStatements?

end Holidays.Toml
