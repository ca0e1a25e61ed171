import Holidays.Text.Alphanumeric
import Holidays.Text.Reader
import Holidays.Text.Space

/-!
Files of environment variables. A line names a variable and its value; quotes keep blanks and line
breaks, and `$name` stands for a variable set before. A variable that is set already stays as it is.
-/
namespace Holidays.EnvFile

abbrev Variables := List (String × String)

def valueOf (env : Variables) (name : String) : String :=
  ((env.find? fun v => v.1 = name).map Prod.snd).getD ""

/-- Where in a line the reading stands: `blank` after white space, the rest within quotes or after
a backslash. -/
inductive Place where
  | plain
  | blank
  | escape
  | single
  | singleEscape
  | double
  | doubleEscape
deriving DecidableEq

def Place.after (place : Place) (c : Char) : Place :=
  match place with
  | .single => if c = '\\' then .singleEscape else if c = '\'' then .plain else .single
  | .double => if c = '\\' then .doubleEscape else if c = '"' then .plain else .double
  | .singleEscape => .single
  | .doubleEscape => .double
  | .escape => .plain
  | .plain | .blank =>
    if c = '\\' then .escape
    else if c = '"' then .double
    else if c = '\'' then .single
    else if place = .plain ∧ Text.isSpace c ∧ c ≠ '\n' ∧ c ≠ '\r' then .blank
    else .plain

/-- The rest of a line, whose end within quotes is none, and what follows it; a comment starts after
white space. -/
def lineFrom (place : Place) (taken : List Char) : List Char → Option (List Char × List Char)
  | [] => if place = .plain then some (taken.reverse, []) else none
  | c :: rest =>
    if place = .blank ∧ c = '#' then some (taken.reverse, Text.nextLine rest)
    else if c = '\n' ∧ place.after c = .plain then some (taken.reverse, rest)
    else lineFrom (place.after c) (c :: taken) rest

theorem length_le_of_lineFrom {place : Place} {taken cs found rest : List Char}
    (h : lineFrom place taken cs = some (found, rest)) : rest.length ≤ cs.length := by
  fun_induction lineFrom place taken cs with
  | case1 => simp_all
  | case2 => simp_all
  | case3 place taken c cs =>
    obtain ⟨-, rfl⟩ := Prod.mk.inj (Option.some.inj h)
    exact Nat.le_succ_of_le (Text.length_nextLine_le _)
  | case4 => simp_all
  | case5 place taken c cs _ _ ih => have := ih h; simp only [List.length_cons]; omega

theorem length_lt_of_lineFrom {place : Place} {taken cs found rest : List Char} {c : Char}
    (h : lineFrom place taken (c :: cs) = some (found, rest)) : rest.length < (c :: cs).length := by
  simp only [lineFrom] at h
  split at h
  · obtain ⟨-, rfl⟩ := Prod.mk.inj (Option.some.inj h)
    exact Nat.lt_succ_of_le (Text.length_nextLine_le _)
  · split at h
    · simp_all
    · exact Nat.lt_succ_of_le (length_le_of_lineFrom h)

def startsWithComment (cs : List Char) : Bool :=
  (Text.dropSpaces (cs.takeWhile (· ≠ '\n'))).head? = some '#'

/-- The lines of a file up to the first that ends within quotes. -/
def lines (cs : List Char) : List (List Char) :=
  match cs with
  | [] => []
  | c :: rest =>
    if startsWithComment (c :: rest) then
      have := Text.length_nextLine_le rest
      lines (Text.nextLine rest)
    else
      match h : lineFrom .plain [] (c :: rest) with
      | none => []
      | some (line, left) =>
        have := length_lt_of_lineFrom h
        line :: lines left
termination_by cs.length
decreasing_by all_goals simp only [List.length_cons] at *; omega

inductive Mode where
  | plain
  | single
  | escape
  | name (taken : List Char)
  | braced (taken : List Char)
  | ended
  | comment

structure Scan where
  mode : Mode
  inDouble : Bool
  output : List Char

def Scan.push (s : Scan) (cs : List Char) : Scan := { s with output := s.output ++ cs }

/-- One character of a value. Letters and numbers of any script spell a name after `$`. -/
def Scan.step (valueOf : String → String) (s : Scan) (c : Char) : Option Scan :=
  let replaced (name : List Char) : Scan := s.push (valueOf (String.ofList name)).toList
  match s.mode with
  | .comment => some s
  | .ended =>
    if c = ' ' ∨ c = '\t' then some s
    else if c = '#' then some { s with mode := .comment }
    else none
  | .escape =>
    if c ∈ ['\\', '\'', '"', '$', ' '] then some { s.push [c] with mode := .plain }
    else if c = 'n' then some { s.push ['\n'] with mode := .plain }
    else none
  | .single => if c = '\'' then some { s with mode := .plain } else some (s.push [c])
  | .name taken =>
    if Text.isAlphanumeric c then some { s with mode := .name (taken ++ [c]) }
    else if c = '\x7b' ∧ taken = [] then some { s with mode := .braced [] }
    else if c = '$' then some { replaced taken with mode := .name [] }
    else some { (replaced taken).push [c] with mode := .plain }
  | .braced taken =>
    if c = '\x7d' then some { replaced taken with mode := .plain }
    else some { s with mode := .braced (taken ++ [c]) }
  | .plain =>
    if c = '$' then some { s with mode := .name [] }
    else if c = '\\' then some { s with mode := .escape }
    else if c = '"' then some { s with inDouble := !s.inDouble }
    else if s.inDouble then some (s.push [c])
    else if c = '\'' then some { s with mode := .single }
    else if c = ' ' ∨ c = '\t' then some { s with mode := .ended }
    else some (s.push [c])

def value? (valueOf : String → String) (cs : List Char) : Option String := do
  let s ← cs.foldlM (Scan.step valueOf) ⟨.plain, false, []⟩
  match s.mode with
  | .single | .braced _ => none
  | .name taken =>
    if s.inDouble then none
    else some (String.ofList s.output ++ valueOf (String.ofList taken))
  | _ => if s.inDouble then none else some (String.ofList s.output)

def isNameStart (c : Char) : Bool := c.isAlpha || c == '_'

def isNameChar (c : Char) : Bool := c.isAlphanum || c == '_' || c == '.'

def name? (cs : List Char) : Option (String × List Char) :=
  if cs.head?.any isNameStart then
    some (String.ofList (cs.takeWhile isNameChar), Text.dropSpaces (cs.dropWhile isNameChar))
  else none

def assigned? (cs : List Char) : Option (String × List Char) := do
  match ← name? cs with
  | (name, '=' :: rest) => some (name, Text.dropSpaces rest)
  | ("export", rest) =>
    match ← name? rest with
    | (name, '=' :: rest) => some (name, Text.dropSpaces rest)
    | _ => none
  | _ => none

def readLine (env : Variables) (line : List Char) : Option Variables :=
  match Text.trimChars line with
  | [] | '#' :: _ => some env
  | cs => do
    let (name, rest) ← assigned? cs
    let value ← if rest.head? = some '#' then some "" else value? (valueOf env) rest
    return if env.any fun v => v.1 = name then env else env ++ [(name, value)]

/-- The variables of the lines before the first that cannot be read, added in turn. -/
def addLines (env : Variables) : List (List Char) → Variables
  | [] => env
  | line :: rest =>
    match readLine env line with
    | none => env
    | some more => addLines more rest

def add (env : Variables) (text : String) : Variables :=
  addLines env (lines (match text.toList with
    | '\ufeff' :: cs => cs
    | cs => cs))

end Holidays.EnvFile
