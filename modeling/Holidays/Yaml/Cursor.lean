/-!
Places in a text of which the columns count. A line break is a line feed, a carriage return or the
two together.
-/
namespace Holidays.Yaml

def isBlank (c : Char) : Bool := c == ' ' || c == '\t'

def isBreak (c : Char) : Bool := c == '\n' || c == '\r'

def isGap (c : Char) : Bool := isBlank c || isBreak c

def isFlowMark (c : Char) : Bool :=
  c == ',' || c == '[' || c == ']' || c == '\x7b' || c == '\x7d'

structure Cursor where
  rest : List Char
  index : Nat
  line : Nat
  column : Nat
  /-- Whether nothing but blanks stands before on the line. -/
  fresh : Bool

namespace Cursor

def start (cs : List Char) : Cursor := ⟨cs, 0, 0, 0, true⟩

def first? (c : Cursor) : Option Char := c.rest.head?

def second? (c : Cursor) : Option Char := c.rest[1]?

def isEnd (c : Cursor) : Bool := c.rest.isEmpty

def endsLine (c : Cursor) : Bool := c.first?.all isBreak

def step (c : Cursor) : Cursor :=
  match c.rest with
  | [] => c
  | '\r' :: '\n' :: rest => ⟨rest, c.index + 2, c.line + 1, 0, true⟩
  | x :: rest =>
    if isBreak x then ⟨rest, c.index + 1, c.line + 1, 0, true⟩
    else ⟨rest, c.index + 1, c.line, c.column + 1, c.fresh && isBlank x⟩

def skip (c : Cursor) : Nat → Cursor
  | 0 => c
  | n + 1 => c.step.skip n

def after (c : Cursor) (found : List Char) : Cursor := c.skip found.length

def reaching (c : Cursor) (rest : List Char) : Cursor := c.skip (c.rest.length - rest.length)

def dropWhile (c : Cursor) (kind : Char → Bool) : Cursor := c.after (c.rest.takeWhile kind)

def afterBlanks? (c : Cursor) : Option (List Char × Cursor) :=
  let blanks := c.rest.takeWhile isBlank
  let next := c.after blanks
  if next.first? = some '#' then
    if blanks = [] then none else some (blanks, next.dropWhile (!isBreak ·))
  else some (blanks, next)

def atDocumentMark (c : Cursor) : Bool :=
  match c.rest with
  | '-' :: '-' :: '-' :: rest => rest.head?.all isGap
  | '.' :: '.' :: '.' :: rest => rest.head?.all isGap
  | _ => false

/-- The place after gaps and comments. With `least`, a tab may stand before that column only where
nothing else is on its line. -/
def skipGaps? (least : Option Int) : Nat → Cursor → Option Cursor
  | 0, c => some c
  | fuel + 1, c =>
    match c.first? with
    | none => some c
    | some x =>
      if x = '\t' ∧ c.fresh ∧ least.any ((c.column : Int) < ·) then
        match c.afterBlanks? with
        | none => none
        | some (_, next) => if next.endsLine then skipGaps? least fuel next else none
      else if isGap x then skipGaps? least fuel c.step
      else if x = '#' then skipGaps? least fuel (c.dropWhile (!isBreak ·))
      else some c

end Cursor

end Holidays.Yaml
