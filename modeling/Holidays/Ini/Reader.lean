import Holidays.Settings.Value
import Holidays.Text.Reader
import Holidays.Text.Space

/-!
Settings in sections: a name in brackets, and below it keys with an equals sign or a colon and a
value. All values are texts, in which a backslash escapes; a comment fills a line.
-/
namespace Holidays.Ini

/-- What an escape stands for, its backslash read already; one before a line break stands for
nothing. -/
def escape? : List Char → Option (List Char × List Char)
  | '0' :: rest => some (['\x00'], rest)
  | 'a' :: rest => some (['\x07'], rest)
  | 'b' :: rest => some (['\x08'], rest)
  | 't' :: rest => some (['\t'], rest)
  | 'r' :: rest => some (['\r'], rest)
  | 'n' :: rest => some (['\n'], rest)
  | '\n' :: rest => some ([], rest)
  | 'x' :: '+' :: a :: b :: c :: rest => (Text.hexChar? [a, b, c]).map fun found => ([found], rest)
  | 'x' :: a :: b :: c :: d :: rest => (Text.hexChar? [a, b, c, d]).map fun found => ([found], rest)
  | 'x' :: _ => none
  | c :: rest => some ([c], rest)
  | [] => none

theorem length_lt_of_escape {cs found rest : List Char} (h : escape? cs = some (found, rest)) :
    rest.length < cs.length := by
  unfold escape? at h
  split at h <;> simp_all <;> grind

def upTo (isEnd : Char → Bool) (mayEnd : Bool) (taken cs : List Char) :
    Option (List Char × List Char) :=
  match cs with
  | [] => if mayEnd then some (taken.reverse, []) else none
  | c :: rest =>
    if isEnd c then some (taken.reverse, c :: rest)
    else if c = '\\' then
      match h : escape? rest with
      | none => none
      | some (found, left) =>
        have := length_lt_of_escape h
        upTo isEnd mayEnd (found.reverse ++ taken) left
    else upTo isEnd mayEnd (c :: taken) rest
termination_by cs.length

theorem length_le_of_upTo {isEnd : Char → Bool} {mayEnd : Bool} {taken cs found rest : List Char}
    (h : upTo isEnd mayEnd taken cs = some (found, rest)) : rest.length ≤ cs.length := by
  fun_induction upTo isEnd mayEnd taken cs <;> grind

def isLineEnd (c : Char) : Bool := c == '\n' || c == '\r'

def isBlank (c : Char) : Bool := Text.isSpace c && !isLineEnd c

def dropLastSpaces (cs : List Char) : List Char := (Text.dropSpaces cs.reverse).reverse

/-- The rest of a line without the blanks around it; after a quoted part those in front count. -/
def lastPart (before : Option (List Char)) (cs : List Char) : Option (List Char × List Char) :=
  (upTo isLineEnd true [] cs).map fun (found, rest) =>
    (match before with
      | none => Text.trimChars found
      | some quoted => quoted ++ dropLastSpaces found, rest)

theorem length_le_of_lastPart {before : Option (List Char)} {cs found rest : List Char}
    (h : lastPart before cs = some (found, rest)) : rest.length ≤ cs.length := by
  obtain ⟨⟨_, left⟩, hu, e⟩ := Option.map_eq_some_iff.1 h
  obtain ⟨-, rfl⟩ := Prod.mk.inj e
  exact length_le_of_upTo hu

def value (before : Option (List Char)) (cs : List Char) : Option (List Char × List Char) :=
  match cs with
  | [] => lastPart before []
  | c :: inner =>
    if c = '"' ∨ c = '\'' then
      match h : upTo (· == c) false [] inner with
      | none => none
      | some (found, rest) =>
        have := length_le_of_upTo h
        value (some (before.getD [] ++ found)) (rest.drop 1)
    else lastPart before (c :: inner)
termination_by cs.length
decreasing_by simp only [List.length_drop, List.length_cons]; omega

theorem length_le_of_value {before : Option (List Char)} {cs found rest : List Char}
    (h : value before cs = some (found, rest)) : rest.length ≤ cs.length := by
  fun_induction value before cs with
  | case1 => exact length_le_of_lastPart h
  | case2 => simp_all
  | case3 before c inner _ _ left hu fewer ih =>
    have := ih h
    rw [List.length_drop] at this
    rw [List.length_cons]
    omega
  | case4 => exact length_le_of_lastPart h

inductive Statement where
  | heading (name : String)
  | entry (key value : String)

def statement (cs : List Char) : Option (Statement × List Char) :=
  match cs with
  | '[' :: inner => (upTo (· == ']') false [] inner).map fun (found, rest) =>
      (.heading (String.ofList (Text.trimChars found)), rest.drop 1)
  | cs =>
    match upTo (fun c => c == '=' || c == ':') false [] cs with
    | none => none
    | some (key, rest) =>
      if Text.trimChars key = [] then none
      else (value none ((rest.drop 1).dropWhile isBlank)).map fun (found, left) =>
        (.entry (String.ofList (Text.trimChars key)) (String.ofList found), left)

theorem length_lt_of_statement {cs rest : List Char} {s : Statement} (full : cs ≠ [])
    (h : statement cs = some (s, rest)) : rest.length < cs.length := by
  have pos := List.length_pos_iff.2 full
  unfold statement at h
  split at h
  · obtain ⟨⟨found, left⟩, hu, e⟩ := Option.map_eq_some_iff.1 h
    obtain ⟨-, rfl⟩ := Prod.mk.inj e
    have := length_le_of_upTo hu
    rw [List.length_drop, List.length_cons]
    omega
  · split at h
    · simp at h
    · next key left hu =>
      split at h
      · simp at h
      · obtain ⟨⟨found, last⟩, hv, e⟩ := Option.map_eq_some_iff.1 h
        obtain ⟨-, rfl⟩ := Prod.mk.inj e
        have first := length_le_of_upTo hu
        have second := length_le_of_value hv
        have third : ((left.drop 1).dropWhile isBlank).length ≤ (left.drop 1).length :=
          (List.dropWhile_sublist _).length_le
        rw [List.length_drop] at third
        omega

/-- What follows white space and comments. `fresh` says whether a line starts here, and no comment
starts elsewhere. -/
def skip (fresh : Bool) (cs : List Char) : Option (List Char) :=
  match cs with
  | [] => some []
  | c :: rest =>
    if c = ';' ∨ c = '#' then if fresh then skip true (Text.nextLine rest) else none
    else if Text.isSpace c then skip (c == '\n') rest
    else some (c :: rest)
termination_by cs.length
decreasing_by
  · exact Nat.lt_succ_of_le (Text.length_nextLine_le _)
  · simp

theorem length_le_of_skip {fresh : Bool} {cs rest : List Char} (h : skip fresh cs = some rest) :
    rest.length ≤ cs.length := by
  fun_induction skip fresh cs with
  | case2 c cs _ ih =>
    have := ih h
    have := Text.length_nextLine_le cs
    rw [List.length_cons]
    omega
  | case4 => grind
  | _ => simp_all

def statements (fresh : Bool) (cs : List Char) : Option (List Statement) :=
  match skips : skip fresh cs with
  | none => none
  | some [] => some []
  | some (c :: inner) =>
    match h : statement (c :: inner) with
    | none => none
    | some (s, rest) =>
      have := length_le_of_skip skips
      have := length_lt_of_statement (List.cons_ne_nil _ _) h
      (statements false rest).map (s :: ·)
termination_by cs.length

/-- Adds a statement to the settings, and answers with the section that the next one stands in. A
heading starts its section anew. -/
def Statement.addTo : Setting × Option String → Statement → Setting × Option String
  | (root, _), .heading name => (root.withEntry name .empty, some name)
  | (root, none), .entry key value => (root.withEntry key (.text value), none)
  | (root, some name), .entry key value =>
    let inner := (root.entry? name).getD .empty
    (root.withEntry name (inner.withEntry key (.text value)), some name)

/-- The settings of a text; those before the first heading stand in no section. -/
def read? (text : String) : Option (List (String × Setting)) :=
  (statements true text.toList).map fun found =>
    (found.foldl Statement.addTo (.empty, none)).1.entries

end Holidays.Ini
