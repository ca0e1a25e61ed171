import Holidays.Text.Reader
import Holidays.Yaml.Cursor

/-!
Scalars that may run over several lines: plain, quoted and in blocks. A single line break within one
becomes a blank, of more the first is dropped. `level` is the column to which the collection around
the scalar is indented.
-/
namespace Holidays.Yaml

/-- What has been read since the last word: line breaks, and blanks while there is none. -/
structure Gap where
  breaks : Nat
  blanks : List Char

def Gap.none : Gap := ⟨0, []⟩

def Gap.folded (g : Gap) : List Char :=
  match g.breaks with
  | 0 => g.blanks
  | 1 => [' ']
  | n + 1 => List.replicate n '\n'

def endsPlain (inFlow : Bool) (c : Char) (next : Option Char) : Bool :=
  (c == ':' && (next.all isGap || (inFlow && next.any isFlowMark))) || (inFlow && isFlowMark c)

def plainWord (inFlow : Bool) : List Char → List Char
  | [] => []
  | c :: cs => if isGap c || endsPlain inFlow c cs.head? then [] else c :: plainWord inFlow cs

/-- The gap after a word of a plain scalar. A tab may stand left of the scalar only where nothing
else is on its line. -/
def plainGap? (level : Int) : Nat → Gap → Cursor → Option (Gap × Cursor)
  | 0, g, c => some (g, c)
  | fuel + 1, g, c =>
    match c.first? with
    | none => some (g, c)
    | some x =>
      if isBreak x then plainGap? level fuel ⟨g.breaks + 1, []⟩ c.step
      else if !isBlank x then some (g, c)
      else if g.breaks = 0 then plainGap? level fuel ⟨0, g.blanks ++ [x]⟩ c.step
      else if x = '\t' ∧ (c.column : Int) ≤ level then
        match c.afterBlanks? with
        | none => none
        | some (_, next) => if next.endsLine then plainGap? level fuel g next else none
      else plainGap? level fuel g c.step

def plainWords? (inFlow : Bool) (level : Int) :
    Nat → List Char → Gap → Cursor → Option (List Char × Bool × Cursor)
  | 0, _, _, _ => none
  | fuel + 1, taken, g, c =>
    let word := plainWord inFlow c.rest
    if c.fresh && c.atDocumentMark || c.first? == some '#' then some (taken, c.fresh, c)
    else if inFlow ∧ c.first? = some '-' ∧ c.second?.any isFlowMark then none
    else if word = [] then some (taken, c.fresh, c)
    else
      let taken := taken ++ g.folded ++ word
      match plainGap? level c.rest.length .none (c.after word) with
      | none => none
      | some (g, next) =>
        if g.breaks = 0 ∧ g.blanks = [] then some (taken, false, next)
        else if !inFlow ∧ (next.column : Int) ≤ level then some (taken, g.breaks ≠ 0, next)
        else plainWords? inFlow level fuel taken g next

def plain? (inFlow : Bool) (level : Int) (c : Cursor) : Option (String × Bool × Cursor) :=
  match plainWords? inFlow level (c.rest.length + 1) [] .none c with
  | some (c :: cs, fresh, next) => some (String.ofList (c :: cs), fresh, next)
  | _ => none

def shortEscape? (c : Char) : Option Char :=
  match c with
  | '0' => some '\x00'
  | 'a' => some '\x07'
  | 'b' => some '\x08'
  | 't' | '\t' => some '\t'
  | 'n' => some '\n'
  | 'v' => some '\x0b'
  | 'f' => some '\x0c'
  | 'r' => some '\r'
  | 'e' => some '\x1b'
  | ' ' => some ' '
  | '"' => some '"'
  | '/' => some '/'
  | '\\' => some '\\'
  | 'N' => some '\x85'
  | '_' => some '\xa0'
  | 'L' => some '\u2028'
  | 'P' => some '\u2029'
  | _ => none

def escape? : List Char → Option (Char × List Char)
  | 'x' :: a :: b :: rest => (Text.hexChar? [a, b]).map fun c => (c, rest)
  | 'u' :: a :: b :: c :: d :: rest => (Text.hexChar? [a, b, c, d]).map fun c => (c, rest)
  | 'U' :: a :: b :: c :: d :: e :: f :: g :: h :: rest =>
    (Text.hexChar? [a, b, c, d, e, f, g, h]).map fun c => (c, rest)
  | c :: rest => (shortEscape? c).map fun found => (found, rest)
  | [] => none

def quotedWord? (mark : Char) : Nat → List Char → Cursor → Option (List Char × Bool × Cursor)
  | 0, taken, c => some (taken.reverse, false, c)
  | fuel + 1, taken, c =>
    match c.rest with
    | [] => some (taken.reverse, false, c)
    | x :: rest =>
      if isGap x then some (taken.reverse, false, c)
      else if x = mark then
        if mark = '\'' ∧ rest.head? = some '\'' then quotedWord? mark fuel (x :: taken) (c.skip 2)
        else some (taken.reverse, false, c)
      else if x = '\\' ∧ mark = '"' then
        if rest.head?.any isBreak then some (taken.reverse, true, (c.skip 2))
        else
          match escape? rest with
          | none => none
          | some (found, left) => quotedWord? mark fuel (found :: taken) (c.reaching left)
      else quotedWord? mark fuel (x :: taken) c.step

/-- The gap after a word of a quoted scalar. No tab may stand left of the collection around it. -/
def quotedGap? (level : Int) (joined : Bool) : Nat → Gap → Cursor → Option (Gap × Cursor)
  | 0, g, c => some (g, c)
  | fuel + 1, g, c =>
    match c.first? with
    | none => some (g, c)
    | some x =>
      if isBreak x then quotedGap? level joined fuel ⟨g.breaks + 1, []⟩ c.step
      else if !isBlank x then some (g, c)
      else if g.breaks = 0 ∧ !joined then quotedGap? level joined fuel ⟨0, g.blanks ++ [x]⟩ c.step
      else if x = '\t' ∧ (c.column : Int) < level then none
      else quotedGap? level joined fuel g c.step

/-- The words of a quoted scalar up to its closing mark, and the place of that mark. After an
escaped line break the blanks of the next line do not count, but more line breaks do. -/
def quotedWords? (mark : Char) (level : Int) :
    Nat → List Char → Cursor → Option (List Char × Cursor)
  | 0, _, _ => none
  | fuel + 1, taken, c =>
    if (c.column = 0 ∧ c.atDocumentMark) ∨ c.isEnd ∨ (c.column : Int) < level then none
    else
      match quotedWord? mark c.rest.length [] c with
      | none => none
      | some (word, joined, next) =>
        if next.first? = some mark then some (taken ++ word, next)
        else
          match quotedGap? level joined next.rest.length .none next with
          | none => none
          | some (g, next) =>
            let gap := if joined then List.replicate g.breaks '\n' else g.folded
            quotedWords? mark level fuel (taken ++ word ++ gap) next

/-- A scalar between two marks, and the place after it and the blanks that follow. On the same line
there may come a colon, and within brackets what separates items. -/
def quoted? (inFlow : Bool) (level : Int) (c : Cursor) : Option (String × Cursor) := do
  let mark ← c.first?
  let (found, next) ← quotedWords? mark level (c.rest.length + 1) [] c.step
  let (_, last) ← next.step.afterBlanks?
  let fits := last.endsLine || match last.first? with
    | some ':' => inFlow || c.line == last.line
    | some x => inFlow && (x == ',' || x == '\x7d' || x == ']')
    | none => true
  if fits then some (String.ofList found, last) else none

inductive Chomping where
  | strip
  | clip
  | keep
deriving DecidableEq

def chomping? : List Char → Option Chomping
  | '+' :: _ => some .keep
  | '-' :: _ => some .strip
  | _ => none

def indentation? : List Char → Option (Option Nat)
  | [] => some none
  | c :: _ => if c = '0' then none else if c.isDigit then some (some (c.toNat - 48)) else some none

def header? (cs : List Char) : Option (Option Nat × Chomping × List Char) :=
  match chomping? cs with
  | some chomping => (indentation? (cs.drop 1)).map fun indent =>
      (indent, chomping, cs.drop (if indent.isSome then 2 else 1))
  | none => (indentation? cs).map fun indent =>
      if indent.isNone then (none, .clip, cs)
      else
        let after := cs.drop 1
        let chomping := chomping? after
        (indent, chomping.getD .clip, after.drop (if chomping.isSome then 1 else 0))

def emptyLines (indent : Nat) : Nat → Nat → Cursor → Nat × Cursor
  | 0, breaks, c => (breaks, c)
  | fuel + 1, breaks, c =>
    match c.first? with
    | none => (breaks, c)
    | some x =>
      if isBreak x then emptyLines indent fuel (breaks + 1) c.step
      else if x = ' ' ∧ c.column < indent then emptyLines indent fuel breaks c.step
      else (breaks, c)

def leadingLines (most : Nat) : Nat → Nat → Cursor → Nat × Nat × Cursor
  | 0, breaks, c => (most, breaks, c)
  | fuel + 1, breaks, c =>
    let next := c.dropWhile (· == ' ')
    let most := max most next.column
    if next.first?.any isBreak then leadingLines most fuel (breaks + 1) next.step
    else (most, breaks, next)

structure Block where
  text : List Char
  /-- Whether a line break and so many more stand after the text. -/
  broken : Bool
  breaks : Nat
  blank : Bool

/-- The lines of a block, indented by `indent`. Line breaks fold between lines that begin without a
blank, unless the block is literal. -/
def blockLines (literal : Bool) (indent : Nat) : Nat → Block → Cursor → Block × Cursor
  | 0, b, c => (b, c)
  | fuel + 1, b, c =>
    if c.column ≠ indent ∨ c.isEnd ∨ (indent = 0 ∧ c.atDocumentMark) then (b, c)
    else
      let blank := c.first?.any isBlank
      let gap :=
        if !literal ∧ b.broken ∧ !b.blank ∧ !blank then
          if b.breaks = 0 then [' '] else List.replicate b.breaks '\n'
        else List.replicate (b.breaks + if b.broken then 1 else 0) '\n'
      let line := c.rest.takeWhile (!isBreak ·)
      let next := c.after line
      let text := b.text ++ gap ++ line
      if next.isEnd then (⟨text, false, 0, blank⟩, next)
      else
        let (breaks, next) := emptyLines indent next.rest.length 0 next.step
        blockLines literal indent fuel ⟨text, true, breaks, blank⟩ next

def Block.chomped (chomping : Chomping) (indent : Nat) (b : Block) (c : Cursor) : List Char :=
  match chomping with
  | .strip => b.text
  | chomping =>
    let ends := (if b.broken then 1 else 0) + (if c.isEnd && max indent 1 ≤ c.column then 1 else 0)
    b.text ++ List.replicate (ends + if chomping = .keep then b.breaks else 0) '\n'

def emptyBlock (chomping : Chomping) (broken : Bool) (breaks : Nat) : List Char :=
  if chomping = .strip ∨ !broken then []
  else List.replicate (if chomping = .keep then max breaks 1 else 1) '\n'

def block? (level : Int) (c : Cursor) : Option (String × Cursor) := do
  let literal := c.first? == some '|'
  let (given, chomping, rest) ← header? c.step.rest
  let (_, head) ← (c.step.reaching rest).afterBlanks?
  let broken := head.first?.any isBreak
  let body := if broken then head.step else head
  if !head.endsLine || body.first? == some '\t' then none
  let fuel := body.rest.length + 1
  let (indent, breaks, next) := match given with
    | some n =>
      let indent := (max level 0).toNat + n
      (indent, emptyLines indent fuel 0 body)
    | none =>
      let (most, breaks, next) := leadingLines 0 fuel 0 body
      (max most (level + 1).toNat, breaks, next)
  if next.isEnd then some (String.ofList (emptyBlock chomping broken breaks), next)
  else if next.column < indent ∧ level < next.column then none
  else
    let (b, last) := blockLines literal indent fuel ⟨[], false, breaks, false⟩ next
    some (String.ofList (b.chomped chomping indent last), last)

end Holidays.Yaml
