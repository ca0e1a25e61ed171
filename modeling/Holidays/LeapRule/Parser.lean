import Holidays.LeapRule.Token

/-!
Reading a leap-year formula by levels of binding, loosest first: `||`, `&&`, one comparison, chains
of `%`, and single operands. Operand types are checked on the way, so that what has been read always
evaluates. Each level hands back the tokens it left, with the proof that they are fewer.
-/
namespace Holidays.LeapRule

abbrev Step (ts : List Placed) :=
  Except Fault (Operand × { rest : List Placed // rest.length < ts.length })

abbrev Tail (ts : List Placed) :=
  Except Fault (Operand × { rest : List Placed // rest.length ≤ ts.length })

def bothBool (column : Nat) : Operand → Operand → Except Fault (BoolExpr × BoolExpr)
  | .bool left, .bool right => .ok (left, right)
  | _, _ => .error ⟨.typeMismatch .boolean .integer, column⟩

def compareOperands (op : Comparison) (column : Nat) : Operand → Operand → Except Fault Operand
  | .int left, .int right => .ok (.bool (.compareInts op left right))
  | .bool left, .bool right => .ok (.bool (.compareBools op left right))
  | left, right => .error ⟨.typeMismatch left.type right.type, column⟩

def comparisonOf? : Token → Option Comparison
  | .equal => some .equal
  | .notEqual => some .notEqual
  | _ => none

/-- The `%` steps after a dividend. `endColumn` is the column past the last character. -/
def remainders (endColumn : Nat) (left : Operand) (ts : List Placed) : Tail ts :=
  match ts with
  | ⟨.percent, column⟩ :: rest =>
    match left, rest with
    | .bool _, _ => .error ⟨.typeMismatch .integer .boolean, column⟩
    | .int _, [] => .error ⟨.unexpectedEnd, endColumn⟩
    | .int dividend, ⟨.integer (divisor + 1), _⟩ :: after =>
      match remainders endColumn (.int (.remainder dividend (divisor + 1))) after with
      | .error fault => .error fault
      | .ok (all, ⟨left, le⟩) =>
        .ok (all, ⟨left, by simp only [List.length_cons]; omega⟩)
    | .int _, ⟨_, column⟩ :: _ => .error ⟨.invalidModulus, column⟩
  | ts => .ok (left, ⟨ts, Nat.le_refl _⟩)

mutual

def disjunction (endColumn : Nat) (ts : List Placed) : Step ts :=
  match conjunction endColumn ts with
  | .error fault => .error fault
  | .ok (first, ⟨rest, less⟩) =>
    match disjuncts endColumn first rest with
    | .error fault => .error fault
    | .ok (all, ⟨left, le⟩) => .ok (all, ⟨left, Nat.lt_of_le_of_lt le less⟩)
termination_by (ts.length, 5)

def disjuncts (endColumn : Nat) (first : Operand) (ts : List Placed) : Tail ts :=
  match ts with
  | ⟨.or, column⟩ :: rest =>
    match conjunction endColumn rest with
    | .error fault => .error fault
    | .ok (second, ⟨after, less⟩) =>
      match bothBool column first second with
      | .error fault => .error fault
      | .ok (l, r) =>
        match disjuncts endColumn (.bool (.or l r)) after with
        | .error fault => .error fault
        | .ok (all, ⟨left, le⟩) =>
          .ok (all, ⟨left, by simp only [List.length_cons]; omega⟩)
  | ts => .ok (first, ⟨ts, Nat.le_refl _⟩)
termination_by (ts.length, 0)

def conjunction (endColumn : Nat) (ts : List Placed) : Step ts :=
  match comparison endColumn ts with
  | .error fault => .error fault
  | .ok (first, ⟨rest, less⟩) =>
    match conjuncts endColumn first rest with
    | .error fault => .error fault
    | .ok (all, ⟨left, le⟩) => .ok (all, ⟨left, Nat.lt_of_le_of_lt le less⟩)
termination_by (ts.length, 4)

def conjuncts (endColumn : Nat) (first : Operand) (ts : List Placed) : Tail ts :=
  match ts with
  | ⟨.and, column⟩ :: rest =>
    match comparison endColumn rest with
    | .error fault => .error fault
    | .ok (second, ⟨after, less⟩) =>
      match bothBool column first second with
      | .error fault => .error fault
      | .ok (l, r) =>
        match conjuncts endColumn (.bool (.and l r)) after with
        | .error fault => .error fault
        | .ok (all, ⟨left, le⟩) =>
          .ok (all, ⟨left, by simp only [List.length_cons]; omega⟩)
  | ts => .ok (first, ⟨ts, Nat.le_refl _⟩)
termination_by (ts.length, 0)

/-- At most one comparison: they do not chain. -/
def comparison (endColumn : Nat) (ts : List Placed) : Step ts :=
  match arithmetic endColumn ts with
  | .error fault => .error fault
  | .ok (first, ⟨[], less⟩) => .ok (first, ⟨[], less⟩)
  | .ok (first, ⟨⟨token, column⟩ :: rest, less⟩) =>
    match comparisonOf? token with
    | none => .ok (first, ⟨⟨token, column⟩ :: rest, less⟩)
    | some op =>
      have shorter : rest.length < ts.length := by simp only [List.length_cons] at less; omega
      match arithmetic endColumn rest with
      | .error fault => .error fault
      | .ok (second, ⟨left, fewer⟩) =>
        match compareOperands op column first second with
        | .error fault => .error fault
        | .ok both => .ok (both, ⟨left, Nat.lt_trans fewer shorter⟩)
termination_by (ts.length, 3)

def arithmetic (endColumn : Nat) (ts : List Placed) : Step ts :=
  match primary endColumn ts with
  | .error fault => .error fault
  | .ok (first, ⟨rest, less⟩) =>
    match remainders endColumn first rest with
    | .error fault => .error fault
    | .ok (all, ⟨left, le⟩) => .ok (all, ⟨left, Nat.lt_of_le_of_lt le less⟩)
termination_by (ts.length, 2)

def primary (endColumn : Nat) (ts : List Placed) : Step ts :=
  match ts with
  | [] => .error ⟨.unexpectedEnd, endColumn⟩
  | ⟨.year, _⟩ :: rest => .ok (.int .year, ⟨rest, by simp⟩)
  | ⟨.integer value, _⟩ :: rest => .ok (.int (.literal value), ⟨rest, by simp⟩)
  | ⟨.boolean value, _⟩ :: rest => .ok (.bool (.literal value), ⟨rest, by simp⟩)
  | ⟨.openParen, _⟩ :: rest =>
    match disjunction endColumn rest with
    | .error fault => .error fault
    | .ok (_, ⟨[], _⟩) => .error ⟨.unclosedParenthesis, endColumn⟩
    | .ok (inner, ⟨⟨.closeParen, _⟩ :: left, less⟩) =>
      .ok (inner, ⟨left, by simp only [List.length_cons] at *; omega⟩)
    | .ok (_, ⟨⟨_, column⟩ :: _, _⟩) => .error ⟨.unclosedParenthesis, column⟩
  | ⟨token, column⟩ :: _ => .error ⟨.unexpectedToken token, column⟩
termination_by (ts.length, 1)

end

def parse (endColumn : Nat) (ts : List Placed) : Except Fault BoolExpr :=
  match ts with
  | [] => .error ⟨.empty, 1⟩
  | first :: others =>
    match disjunction endColumn (first :: others) with
    | .error fault => .error fault
    | .ok (_, ⟨⟨token, column⟩ :: _, _⟩) => .error ⟨.unexpectedToken token, column⟩
    | .ok (.bool condition, ⟨[], _⟩) => .ok condition
    | .ok (.int _, ⟨[], _⟩) => .error ⟨.notBoolean, first.column⟩

end Holidays.LeapRule

namespace Holidays

structure LeapRule where
  source : String
  condition : LeapRule.BoolExpr
deriving DecidableEq, Repr

def LeapRule.compile (source : String) : Except LeapRule.Fault LeapRule :=
  match tokenize source with
  | .error fault => .error fault
  | .ok tokens => (parse (source.length + 1) tokens).map fun condition => ⟨source, condition⟩

def LeapRule.isLeap (rule : LeapRule) (year : Int) : Bool := rule.condition.eval year

end Holidays
