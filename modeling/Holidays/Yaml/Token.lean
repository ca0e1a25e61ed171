import Holidays.Yaml.Scalar
import Holidays.Yaml.Tag

/-!
The tokens of a text in YAML: the marks that it has, and those that its indentation stands for. A
token may turn out to begin a key when the colon comes, so keys are marked after the fact.
-/
namespace Holidays.Yaml

inductive Token where
  | directive (d : Directive)
  | documentStart
  | documentEnd
  | blockList
  | blockTable
  | blockEnd
  | flowList
  | flowListEnd
  | flowTable
  | flowTableEnd
  | blockItem
  | flowItem
  | key
  | value
  | alias (name : String)
  | anchor (name : String)
  | tag (t : Tag)
  | scalar (plain : Bool) (text : String)
deriving DecidableEq

structure Candidate where
  /-- The key of a table in a block, which has to have a colon. -/
  required : Bool
  token : Nat
  index : Nat
  line : Nat
  column : Nat

/-- A column to which something is indented: a collection in a block, or else what a collection
within brackets may not go left of. -/
structure Level where
  column : Nat
  block : Bool

structure Scanner where
  cursor : Cursor
  tokens : Array Token
  levels : List Level
  /-- For the text and each open bracket, innermost first. -/
  candidates : List (Option Candidate)
  keyAllowed : Bool
  inTable : Bool
  /-- For each open list in brackets, whether a table of one entry is open in it. -/
  pairs : List Bool
  adjacent : Nat
  marked : Bool

namespace Scanner

def start (cs : List Char) : Scanner :=
  ⟨.start cs, #[], [], [none], true, false, [], 0, false⟩

def inFlow (s : Scanner) : Bool := 1 < s.candidates.length

def level (s : Scanner) : Int :=
  match s.levels with
  | [] => -1
  | l :: _ => l.column

def push (t : Token) (s : Scanner) : Scanner :=
  { s with tokens := s.tokens.push t, marked := false }

def unroll (column : Int) (s : Scanner) : Scanner :=
  if s.inFlow then s
  else
    let ended := s.levels.takeWhile fun l => column < (l.column : Int)
    let s := { s with levels := s.levels.drop ended.length }
    (ended.filter (·.block)).foldl (fun s _ => s.push .blockEnd) s

def roll (column position : Nat) (t : Token) (s : Scanner) : Scanner :=
  if s.inFlow then s
  else
    let s := match s.levels with
      | l :: rest => if s.level ≤ (column : Int) ∧ !l.block then { s with levels := rest } else s
      | [] => s
    if s.level < (column : Int) then
      { s with
        levels := ⟨column, true⟩ :: s.levels
        tokens := s.tokens.insertIdxIfInBounds position t
        marked := false }
    else s

/-- What follows has to be indented one column more than the block around it. -/
def rollOne (s : Scanner) : Scanner :=
  match s.levels with
  | l :: _ =>
    if l.block ∧ !s.inFlow then { s with levels := ⟨l.column + 1, false⟩ :: s.levels } else s
  | [] => s

def dropNonBlocks (s : Scanner) : Scanner := { s with levels := s.levels.dropWhile (!·.block) }

def saveKey (s : Scanner) : Scanner :=
  if s.keyAllowed then
    let c := s.cursor
    let required := !s.inFlow && s.level == c.column && s.levels.head?.any (·.block)
    let candidate : Candidate := ⟨required, s.tokens.size, c.index, c.line, c.column⟩
    { s with candidates := some candidate :: s.candidates.drop 1 }
  else s

def dropKey? (s : Scanner) : Option Scanner :=
  if (s.candidates.head?.join).any (·.required) then none
  else some { s with candidates := none :: s.candidates.drop 1 }

/-- A key outside of brackets stands on one line and has 1024 characters at most. -/
def expire? (s : Scanner) : Option Scanner :=
  let expired := !s.inFlow && (s.candidates.head?.join).any fun k =>
    k.line < s.cursor.line || k.index + 1024 < s.cursor.index
  if expired then s.dropKey? else some s

def pass? (n : Nat) (s : Scanner) : Option Scanner :=
  (s.cursor.skip n).afterBlanks?.map fun (_, cursor) => { s with cursor }

/-- Moves to the next token. A line break allows a key outside of brackets. -/
def passGaps? (s : Scanner) : Option Scanner :=
  let least := if s.levels.isEmpty then none else some s.level
  (s.cursor.skipGaps? least s.cursor.rest.length).map fun cursor =>
    let keyAllowed := s.keyAllowed || (!s.inFlow && s.cursor.line < cursor.line)
    { s with cursor, keyAllowed }

def endPair (s : Scanner) : Scanner :=
  match s.pairs with
  | true :: rest => { s.push .flowTableEnd with pairs := false :: rest, inTable := false }
  | _ => s

def maxDepth : Nat := 255

def openFlow? (t : Token) (s : Scanner) : Option Scanner := do
  let s := s.saveKey.rollOne
  if maxDepth < s.candidates.length then none
  let s := { s with candidates := none :: s.candidates, keyAllowed := true }
  let s := if t = .flowTable then { s with inTable := true }
    else { s with pairs := false :: s.pairs }
  return (← s.pass? 1).push t

def closeFlow? (t : Token) (s : Scanner) : Option Scanner := do
  let s ← s.dropKey?
  let s := if s.inFlow then { s with candidates := s.candidates.drop 1 } else s
  let s := { s with keyAllowed := false }
  let s := if t = .flowListEnd then { s.endPair with pairs := s.pairs.drop 1 } else s
  let s ← s.pass? 1
  return { s with adjacent := if s.inFlow then s.cursor.index else s.adjacent }.push t

def flowItem? (s : Scanner) : Option Scanner := do
  let s := { (← s.dropKey?) with keyAllowed := true }
  return (← s.endPair.pass? 1).push .flowItem

def blockItem? (s : Scanner) : Option Scanner := do
  let column := s.cursor.column
  if s.inFlow ∨ !s.keyAllowed ∨ (s.marked ∧ column = 0 ∧ !s.levels.isEmpty) then none
  let s := s.roll column s.tokens.size .blockList
  let (blanks, cursor) ← s.cursor.step.afterBlanks?
  if blanks.contains '\t' ∧ cursor.first? = some '-' ∧ cursor.second?.all isGap then none
  let s := { s with cursor }
  let s := if cursor.first?.any (fun c => isBreak c || isFlowMark c) then s.rollOne else s
  return { (← s.dropKey?) with keyAllowed := true }.push .blockItem

def passSpaces? (s : Scanner) : Option Scanner :=
  let rec go : Nat → Cursor → Cursor
    | 0, c => c
    | fuel + 1, c =>
      match c.first? with
      | some x =>
        if x = ' ' ∨ isBreak x then go fuel c.step
        else if x = '#' then go fuel (c.dropWhile (!isBreak ·))
        else c
      | none => c
  let cursor := go s.cursor.rest.length s.cursor
  if cursor.index = s.cursor.index then none
  else
    let keyAllowed := s.keyAllowed || (!s.inFlow && s.cursor.line < cursor.line)
    some { s with cursor, keyAllowed }

def key? (s : Scanner) : Option Scanner := do
  if !s.inFlow ∧ !s.keyAllowed then none
  let s := if s.inFlow then { s with inTable := true }
    else s.roll s.cursor.column s.tokens.size .blockTable
  let s ← s.dropKey?
  let s ← { s with keyAllowed := !s.inFlow, cursor := s.cursor.step }.passSpaces?
  if s.cursor.first? = some '\t' then none
  return s.push .key

/-- A colon. It makes the token that may begin a key one, and where no table is open in a list
within brackets, it opens one. -/
def value? (s : Scanner) : Option Scanner := do
  let candidate := s.candidates.head?.join
  let opens := s.pairs ≠ [] ∧ !s.inTable
  let c := s.cursor
  let s := if opens then { s with pairs := true :: s.pairs.drop 1 } else s
  let s ← if c.second? = some '\t' then do
      let (blanks, cursor) ← c.step.afterBlanks?
      if !blanks.contains ' ' ∧ cursor.first?.any isNameChar then none
      pure { s with cursor }
    else pure { s with cursor := c.step }
  match candidate with
  | some k =>
    if opens ∧ k.line < c.line then none
    let tokens := s.tokens.insertIdxIfInBounds k.token .key
    let tokens := if opens then tokens.insertIdxIfInBounds k.token .flowTable else tokens
    let s := ({ s with tokens }.roll k.column k.token .blockTable).rollOne
    return { s with candidates := none :: s.candidates.drop 1, keyAllowed := false }.push .value
  | none =>
    let s := if opens then s.push .flowTable else s
    if !s.inFlow ∧ !s.keyAllowed then none
    let s := (s.roll c.column s.tokens.size .blockTable).rollOne
    return { s with keyAllowed := !s.inFlow }.push .value

def adjacentValue? (s : Scanner) : Option Scanner :=
  if s.cursor.index ≠ s.adjacent ∧ s.cursor.second?.any (fun c => c = '[' ∨ c = '\x7b') then none
  else s.value?

def named? (t : String → Token) (s : Scanner) : Option Scanner :=
  let isPart (c : Char) : Bool := !isGap c && !isFlowMark c && c != '\ufeff'
  let name := s.cursor.step.rest.takeWhile isPart
  if name = [] then none
  else
    let s := { s.saveKey with keyAllowed := false, cursor := s.cursor.step.after name }
    some (s.push (t (String.ofList name)))

def mark (column : Nat) (s : Scanner) : Scanner := { s with marked := column = 0 }

def tagged? (s : Scanner) : Option Scanner := do
  let (t, rest) ← tag? s.cursor.rest
  if !(rest.head?.all isGap || (s.inFlow && rest.head?.any isFlowMark)) then none
  let s := { s.saveKey with keyAllowed := false, cursor := s.cursor.reaching rest }
  return s.push (.tag t)

def blockScalar? (s : Scanner) : Option Scanner := do
  let s := s.saveKey.dropNonBlocks
  let (text, cursor) ← block? s.level s.cursor
  return { s with keyAllowed := true, cursor }.push (.scalar false text)

def quotedScalar? (s : Scanner) : Option Scanner := do
  let s := { s.saveKey with keyAllowed := false }
  let (text, cursor) ← quoted? s.inFlow s.level s.cursor
  let s ← { s with cursor }.passGaps?
  return { s with adjacent := s.cursor.index }.push (.scalar false text)

def plainScalar? (s : Scanner) : Option Scanner := do
  let s := s.saveKey.dropNonBlocks
  if s.inFlow ∧ (s.cursor.column : Int) ≤ s.level then none
  let (text, fresh, cursor) ← plain? s.inFlow s.level s.cursor
  return { s with keyAllowed := fresh, cursor }.push (.scalar true text)

/-- A line of dashes or points between documents. Nothing may follow the points on theirs. -/
def documentMark? (t : Token) (s : Scanner) : Option Scanner := do
  let s := { (← (s.unroll (-1)).dropKey?) with keyAllowed := false, cursor := s.cursor.skip 3 }
  let s := s.push t
  if t = .documentEnd then
    let s ← s.pass? 0
    if s.cursor.endsLine then some s else none
  else some s

def directive? (s : Scanner) : Option Scanner := do
  let s := { (← (s.unroll (-1)).dropKey?) with keyAllowed := false }
  let (d, rest) ← Yaml.directive? s.cursor.step.rest
  let s ← { s with cursor := s.cursor.reaching rest }.pass? 0
  if s.cursor.endsLine then some ({ s with cursor := s.cursor.step }.push (.directive d)) else none

def token? (c : Char) (s : Scanner) : Option Scanner :=
  let next := s.cursor.second?
  if s.cursor.column = 0 ∧ c = '%' then s.directive?
  else if s.cursor.column = 0 ∧ s.cursor.atDocumentMark then
    s.documentMark? (if c = '-' then .documentStart else .documentEnd)
  else if (s.cursor.column : Int) < s.level then none
  else if c = '[' then s.openFlow? .flowList
  else if c = '\x7b' then s.openFlow? .flowTable
  else if c = ']' then s.closeFlow? .flowListEnd
  else if c = '\x7d' then s.closeFlow? .flowTableEnd
  else if c = ',' then s.flowItem?
  else if c = '-' ∧ next.all isGap then s.blockItem?
  else if c = '?' ∧ next.all isGap then s.key?
  else if c = ':' ∧ next.all isGap then s.value?
  else if c = ':' ∧ s.inFlow ∧ (next.any isFlowMark ∨ s.cursor.index = s.adjacent) then
    s.adjacentValue?
  else if c = '*' then s.named? .alias
  else if c = '&' then (s.named? .anchor).map (mark s.cursor.column)
  else if c = '!' then s.tagged?.map (mark s.cursor.column)
  else if (c = '|' ∨ c = '>') ∧ !s.inFlow then s.blockScalar?
  else if c = '\'' ∨ c = '"' then s.quotedScalar?
  else if c = '%' ∨ c = '@' ∨ c = '\x60' then none
  else s.plainScalar?

def run? : Nat → Scanner → Option (Array Token)
  | 0, _ => none
  | fuel + 1, s => do
    let s ← (← s.passGaps?).expire?
    let s := s.unroll s.cursor.column
    match s.cursor.first? with
    | some c => run? fuel (← s.token? c)
    | none =>
      if s.candidates.any (·.any (·.required)) then none
      return (s.unroll (-1)).tokens

end Scanner

def tokens? (cs : List Char) : Option (List Token) :=
  (Scanner.run? (cs.length + 1) (.start cs)).map Array.toList

end Holidays.Yaml
