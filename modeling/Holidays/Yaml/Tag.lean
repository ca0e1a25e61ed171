import Holidays.Text.Reader
import Holidays.Yaml.Cursor

namespace Holidays.Yaml

structure Tag where
  handle : String
  suffix : String
deriving DecidableEq

def isNameChar (c : Char) : Bool := c.isAlphanum || c == '_' || c == '-'

def isUriChar (c : Char) : Bool :=
  c.isAlphanum || c == '-' || ['#', ';', '/', '?', ':', '@', '&', '=', '+', '$', ',', '_', '.', '!',
    '~', '*', '\'', '(', ')', '[', ']', '%'].contains c

def isTagChar (c : Char) : Bool := isUriChar c && !isFlowMark c && c != '!'

def escapedChar? (cs : List Char) : Option (Char × List Char) :=
  match cs with
  | '%' :: a :: b :: rest => do
    let lead ← Text.hexNumber? [a, b]
    if lead < 0x80 then some (Char.ofNat lead, rest)
    else if 0xC0 ≤ lead ∧ lead < 0xD8 then
      match rest with
      | '%' :: c :: d :: rest => do
        let next ← Text.hexNumber? [c, d]
        if 0x80 ≤ next ∧ next < 0xC0 then some (Char.ofNat (0x100 * lead + next), rest) else none
      | _ => none
    else none
  | _ => none

def uriChars? (kind : Char → Bool) : Nat → List Char → List Char → Option (List Char × List Char)
  | 0, taken, cs => some (taken.reverse, cs)
  | fuel + 1, taken, cs =>
    match cs with
    | [] => some (taken.reverse, [])
    | c :: rest =>
      if !kind c then some (taken.reverse, cs)
      else if c = '%' then
        (escapedChar? cs).bind fun (found, left) => uriChars? kind fuel (found :: taken) left
      else uriChars? kind fuel (c :: taken) rest

def handle? (cs : List Char) : Option (List Char × List Char) :=
  match cs with
  | '!' :: rest =>
    let name := rest.takeWhile isNameChar
    let left := rest.drop name.length
    if left.head? = some '!' then some ('!' :: name ++ ['!'], left.drop 1)
    else some ('!' :: name, left)
  | _ => none

/-- Whether a handle is closed, so that directives have to give it a meaning. -/
def isClosed (handle : List Char) : Bool :=
  1 < handle.length && handle.head? == some '!' && handle.getLast? == some '!'

def tag? (cs : List Char) : Option (Tag × List Char) :=
  match cs with
  | '!' :: '<' :: rest => do
    let (name, left) ← uriChars? isUriChar rest.length [] rest
    if left.head? = some '>' then some (⟨"", String.ofList name⟩, left.drop 1) else none
  | cs => do
    let (handle, rest) ← handle? cs
    let (suffix, left) ← uriChars? isTagChar rest.length [] rest
    if isClosed handle then
      if suffix = [] then none else some (⟨String.ofList handle, String.ofList suffix⟩, left)
    else if handle = ['!'] ∧ suffix = [] then some (⟨"", "!"⟩, left)
    else some (⟨"!", String.ofList (handle.drop 1 ++ suffix)⟩, left)

inductive Directive where
  | version
  | tag (handle lead : String)
deriving DecidableEq

def versionPart? (cs : List Char) : Option (List Char) :=
  let digits := cs.takeWhile Char.isDigit
  if digits = [] ∨ 9 < digits.length then none else some (cs.drop digits.length)

def dropBlanks (cs : List Char) : List Char := cs.dropWhile isBlank

def lead? (cs : List Char) : Option (List Char × List Char) :=
  if cs.head?.any fun c => c = '!' ∨ isTagChar c then
    match cs with
    | '!' :: rest => (uriChars? isUriChar rest.length ['!'] rest)
    | cs => uriChars? isUriChar cs.length [] cs
  else none

/-- A directive after its percent sign, and what follows it; one that is not known stands for an
empty handle. -/
def directive? (cs : List Char) : Option (Directive × List Char) :=
  let name := cs.takeWhile isNameChar
  let rest := cs.drop name.length
  if name = [] ∨ !rest.head?.all isGap then none
  else if name = ['Y', 'A', 'M', 'L'] then do
    match ← versionPart? (dropBlanks rest) with
    | '.' :: rest => (versionPart? rest).map fun left => (.version, left)
    | _ => none
  else if name = ['T', 'A', 'G'] then do
    let (handle, rest) ← handle? (dropBlanks rest)
    if handle ≠ ['!'] ∧ !isClosed handle then none
    let (lead, left) ← lead? (dropBlanks rest)
    if left.head?.all isGap then
      some (.tag (String.ofList handle) (String.ofList lead), left)
    else none
  else some (.tag "" "", rest.dropWhile (!isBreak ·))

/-- The tag in full, as the directives have it. Two marks shorten the names that all documents
share. -/
def Tag.resolved? (directives : List (String × String)) (t : Tag) : Option Tag :=
  match directives.find? fun d => d.1 = t.handle with
  | some (_, lead) => some ⟨lead, t.suffix⟩
  | none =>
    if t.handle = "!!" then some ⟨"tag:yaml.org,2002:", t.suffix⟩
    else if isClosed t.handle.toList then none
    else some t

end Holidays.Yaml
