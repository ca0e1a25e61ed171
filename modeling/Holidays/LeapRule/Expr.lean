/-!
Conditions on a year: remainders and comparisons of integers, joined by `&&` and `||`.
Integer and boolean expressions are separate types, so that every expression has a value.
-/
namespace Holidays.LeapRule

inductive IntExpr where
  | year
  | literal (value : Nat)
  /-- The remainder by `divisor`, which is never negative for a positive divisor. -/
  | remainder (dividend : IntExpr) (divisor : Nat)
deriving DecidableEq, Repr

def IntExpr.eval (year : Int) : IntExpr → Int
  | .year => year
  | .literal value => value
  | .remainder dividend divisor => dividend.eval year % divisor

inductive Comparison where
  | equal
  | notEqual
deriving DecidableEq, Repr

def Comparison.holds {α : Type} [DecidableEq α] (op : Comparison) (left right : α) : Bool :=
  match op with
  | .equal => decide (left = right)
  | .notEqual => decide (left ≠ right)

inductive BoolExpr where
  | literal (value : Bool)
  | compareInts (op : Comparison) (left right : IntExpr)
  | compareBools (op : Comparison) (left right : BoolExpr)
  | and (left right : BoolExpr)
  | or (left right : BoolExpr)
deriving DecidableEq, Repr

def BoolExpr.eval (year : Int) : BoolExpr → Bool
  | .literal value => value
  | .compareInts op left right => op.holds (left.eval year) (right.eval year)
  | .compareBools op left right => op.holds (left.eval year) (right.eval year)
  | .and left right => left.eval year && right.eval year
  | .or left right => left.eval year || right.eval year

inductive ValueType where
  | integer
  | boolean
deriving DecidableEq, Repr

def ValueType.name : ValueType → String
  | .integer => "integer"
  | .boolean => "boolean"

inductive Operand where
  | int (expr : IntExpr)
  | bool (expr : BoolExpr)
deriving DecidableEq, Repr

def Operand.type : Operand → ValueType
  | .int _ => .integer
  | .bool _ => .boolean

end Holidays.LeapRule
