import Holidays.Ron.Number
import Holidays.Text.Gap
import Holidays.Text.Name

namespace Holidays.Ron

open Text (Rest Reader)

def isBlank (c : Char) : Bool :=
  c == ' ' || ('\t' ≤ c && c ≤ '\r') || c == '\x85' || c == '\u200e' || c == '\u200f' ||
    c == '\u2028' || c == '\u2029'

/-- What follows the end of a comment in which others may nest, `depth` of them open inside it. -/
def afterComment? (depth : Nat) : List Char → Option (List Char)
  | [] => none
  | '/' :: '*' :: rest => afterComment? (depth + 1) rest
  | '*' :: '/' :: rest => if depth = 0 then some rest else afterComment? (depth - 1) rest
  | _ :: rest => afterComment? depth rest

theorem length_le_of_afterComment {depth : Nat} {cs rest : List Char}
    (h : afterComment? depth cs = some rest) : rest.length ≤ cs.length := by
  fun_induction afterComment? depth cs <;> grind

def skip (cs : List Char) : List Char :=
  match cs with
  | [] => []
  | '/' :: '/' :: rest => skip (Text.nextLine rest)
  | '/' :: '*' :: rest =>
    match h : afterComment? 0 rest with
    | none => '/' :: '*' :: rest
    | some left =>
      have := length_le_of_afterComment h
      skip left
  | c :: rest => if isBlank c then skip rest else c :: rest
termination_by cs.length
decreasing_by
  · exact Nat.lt_succ_of_lt (Nat.lt_succ_of_le (Text.length_nextLine_le _))
  · simp only [List.length_cons]; omega
  · simp

theorem length_skip_le (cs : List Char) : (skip cs).length ≤ cs.length := by
  fun_induction skip cs with
  | case2 rest ih =>
    have := Text.length_nextLine_le rest
    simp only [List.length_cons]
    omega
  | case4 rest left _ fewer ih => simp only [List.length_cons]; omega
  | case5 c rest _ _ _ ih => simp only [List.length_cons]; omega
  | _ => simp

def gap : Text.Gap := ⟨skip, length_skip_le⟩

/-- Letters that no name has, because they fall apart when a text is normalised; some may still
follow the first letter of one. -/
def unstableLetters : List Nat :=
  [0x37a, 0x2e2f, 0xfc5e, 0xfc5f, 0xfc60, 0xfc61, 0xfc62, 0xfc63, 0xfdfa, 0xfdfb, 0xfe70, 0xfe72,
    0xfe74, 0xfe76, 0xfe78, 0xfe7a, 0xfe7c, 0xfe7e]

def followingLetters : List Nat := [0xe33, 0xeb3, 0xff9e, 0xff9f]

def isNameStart (c : Char) : Bool :=
  c == '_' || [0x1885, 0x1886, 0x2118, 0x212e].contains c.toNat ||
    (Text.isLetter c && !unstableLetters.contains c.toNat && !followingLetters.contains c.toNat)

def isNameChar (c : Char) : Bool :=
  ((Text.isLetter c || Text.isNameMark c || Text.isSpacingMark c) &&
      !unstableLetters.contains c.toNat) ||
    [0xb7, 0x387, 0x19da, 0x2118, 0x212e, 0x30fb, 0xff65].contains c.toNat ||
    (0x1369 ≤ c.toNat && c.toNat ≤ 0x1371)

def isRawNameChar (c : Char) : Bool := isNameChar c || c == '.' || c == '+' || c == '-'

def quotedStarts : List (List Char) :=
  [['b', '"'], ['b', '\''], ['b', 'r', '#'], ['b', 'r', '"'], ['r', '"'], ['r', '#', '"'],
    ['r', '#', '#']]

def name : Reader String := Text.taking fun cs =>
  if quotedStarts.any (·.isPrefixOf cs) then none
  else
    match cs with
    | [] => none
    | 'r' :: '#' :: rest => (Text.run isRawNameChar rest).map fun (found, left) =>
        (String.ofList found, left.val)
    | c :: rest =>
      if isNameStart c then
        some (String.ofList (c :: rest.takeWhile isNameChar), rest.dropWhile isNameChar)
      else none

structure Extensions where
  /-- An optional value needs no parentheses. -/
  implicitSome : Bool
  /-- The parentheses of an optional value are those of the record or list in it as well. -/
  unwrapVariants : Bool

def word? (word : List Char) : Option Setting :=
  match word with
  | ['t', 'r', 'u', 'e'] => some (.flag true)
  | ['f', 'a', 'l', 's', 'e'] => some (.flag false)
  | ['N', 'o', 'n', 'e'] => some .absent
  | word => (special? word false).map .number

def startsField (cs : List Char) : Bool :=
  match name (skip cs) with
  | none => false
  | some (_, rest) => (gap.mark rest.val).any (·.1 == ':')

def group (inner : Reader Setting) (cs : List Char) : Option (Setting × Rest cs) :=
  if startsField cs then
    (gap.items (gap.pair name ':' inner) ')' cs).map fun (found, rest) => (.tableOf found, rest)
  else (gap.items inner ')' cs).map fun (found, rest) => (.list found, rest)

/-- The one item of an optional value, or all of them where those count. -/
def unwrapped? (e : Extensions) : List Setting → Option Setting
  | [] => none
  | [found] => some found
  | found => if e.unwrapVariants then some (.list found) else none

def optional (e : Extensions) (inside : Option (Reader Setting)) (inner : Reader Setting) :
    Reader Setting := fun cs =>
  match gap.mark cs with
  | none => none
  | some (c, ⟨after, less⟩) =>
    if c = '(' then
      if e.unwrapVariants ∧ startsField after then
        inside.bind fun fields => (group fields after).map fun (found, ⟨left, lesser⟩) =>
          (found, ⟨left, by omega⟩)
      else (gap.items inner ')' after).bind fun (found, ⟨left, lesser⟩) =>
        (unwrapped? e found).map fun value => (value, ⟨left, by omega⟩)
    else if e.implicitSome then (inner (skip cs)).map fun (found, ⟨left, lesser⟩) =>
      (found, ⟨left, by have := length_skip_le cs; omega⟩)
    else none

def container (inside : Option (Reader Setting)) : Reader Setting
  | '(' :: ')' :: rest => some (.absent, ⟨rest, by simp only [List.length_cons]; omega⟩)
  | '(' :: rest => inside.bind fun inner => Text.behind id (group inner rest)
  | '[' :: rest => inside.bind fun inner => Text.behind .list (gap.items inner ']' rest)
  | '\x7b' :: rest => inside.bind fun inner =>
      Text.behind .tableOf (gap.items (gap.pair quoted ':' inner) '\x7d' rest)
  | _ => none

def named (inside : Option (Reader Setting)) : Reader Setting := fun cs =>
  match name cs with
  | none => none
  | some (_, ⟨rest, less⟩) =>
    match gap.mark rest with
    | some ('(', ⟨after, lesser⟩) => inside.bind fun inner =>
        (group inner after).map fun (found, ⟨left, least⟩) => (found, ⟨left, by omega⟩)
    | _ => some (.absent, ⟨rest, less⟩)

def plain : Reader Setting := fun cs =>
  match quoted cs with
  | some (s, rest) => some (.text s, rest)
  | none => Text.taking (fun cs => byte cs <|> number isNameChar cs) cs

def body (e : Extensions) (inside optionals : Option (Reader Setting)) : Reader Setting := fun cs =>
  match Text.run isNameChar cs with
  | some (['S', 'o', 'm', 'e'], ⟨rest, less⟩) => optionals.bind fun inner =>
      (optional e inside inner rest).map fun (found, ⟨left, lesser⟩) => (found, ⟨left, by omega⟩)
  | found =>
    match found.bind fun (w, rest) => (word? w).map fun value => (value, rest) with
    | some value => some value
    | none => container inside cs <|> (named inside cs <|> plain cs)

/-- A value within a budget for depth: a container takes one for itself and one for what it holds,
an optional value one. -/
def value (e : Extensions) : Nat → Reader Setting
  | 0 => body e none none
  | 1 => body e (some fun _ => none) (some (value e 0))
  | depth + 2 => body e (some (value e depth)) (some (value e (depth + 1)))

def maxDepth : Nat := 128

def afterWords? (words : List (List Char)) (cs : List Char) : Option (List Char) :=
  words.foldlM (fun cs word =>
    if word.isPrefixOf cs then some (skip (cs.drop word.length)) else none) cs

def extensionNames : List String :=
  ["implicit_some", "unwrap_newtypes", "unwrap_variant_newtypes", "explicit_struct_names"]

def enabling : Reader (List String) := Text.taking fun cs => do
  let rest ← afterWords? [['!'], ['['], ['e', 'n', 'a', 'b', 'l', 'e'], ['(']] (skip cs)
  let (names, ⟨left, _⟩) ← gap.items name ')' rest
  let left ← afterWords? [[']']] (skip left)
  if names ≠ [] ∧ names.all (extensionNames.contains ·) then some (names, left) else none

def attributes (names : List String) (cs : List Char) : Option (List String × List Char) :=
  match cs with
  | '#' :: rest =>
    match enabling rest with
    | none => none
    | some (more, ⟨left, _⟩) => attributes (names ++ more) left
  | cs => some (names, cs)
termination_by cs.length
decreasing_by exact Nat.lt_succ_of_lt ‹_›

def read? (text : String) : Option (List (String × Setting)) :=
  match attributes [] (skip text.toList) with
  | none => none
  | some (names, cs) =>
    let e := ⟨names.contains "implicit_some", names.contains "unwrap_variant_newtypes"⟩
    match value e maxDepth cs with
    | some (.table entries, ⟨rest, _⟩) => if skip rest = [] then some entries else none
    | _ => none

end Holidays.Ron
