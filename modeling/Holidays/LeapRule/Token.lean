import Holidays.Text.Numeral
import Holidays.Text.Space
import Holidays.LeapRule.Expr

/-!
Tokens of leap-year formulas, and the faults a formula can have. Columns count characters from 1.
-/
namespace Holidays.LeapRule

inductive Token where
  | year
  | integer (value : Nat)
  | boolean (value : Bool)
  | percent
  | equal
  | notEqual
  | and
  | or
  | openParen
  | closeParen
deriving DecidableEq, Repr

def Token.describe : Token → String
  | .year => "`year`"
  | .integer value => "integer " ++ Text.natural value
  | .boolean true => "`true`"
  | .boolean false => "`false`"
  | .percent => "`%`"
  | .equal => "`==`"
  | .notEqual => "`!=`"
  | .and => "`&&`"
  | .or => "`||`"
  | .openParen => "`(`"
  | .closeParen => "`)`"

inductive Cause where
  | empty
  | unexpectedCharacter (c : Char)
  | unknownIdentifier (name : String)
  | integerOverflow
  | unexpectedToken (token : Token)
  | unexpectedEnd
  | unclosedParenthesis
  | invalidModulus
  | typeMismatch (expected found : ValueType)
  | notBoolean
deriving DecidableEq, Repr

def Cause.message : Cause → String
  | .empty => "empty formula"
  | .unexpectedCharacter c => "unexpected character '" ++ String.singleton c ++ "'"
  | .unknownIdentifier name => "unknown identifier '" ++ name ++ "'"
  | .integerOverflow => "integer literal out of range"
  | .unexpectedToken token => "unexpected " ++ token.describe
  | .unexpectedEnd => "unexpected end of formula"
  | .unclosedParenthesis => "unclosed parenthesis"
  | .invalidModulus => "modulus must be a positive integer literal"
  | .typeMismatch expected found =>
    "type mismatch: expected " ++ expected.name ++ ", found " ++ found.name
  | .notBoolean => "formula must evaluate to a boolean"

structure Fault where
  cause : Cause
  column : Nat
deriving DecidableEq, Repr

def Fault.message (fault : Fault) : String :=
  "column " ++ Text.natural fault.column ++ ": " ++ fault.cause.message

structure Placed where
  token : Token
  column : Nat
deriving DecidableEq, Repr

/-- The greatest integer a formula may spell. -/
def maxLiteral : Nat := 9223372036854775807

def isWordStart (c : Char) : Bool := c.isAlpha || c == '_'

def isWordChar (c : Char) : Bool := c.isAlphanum || c == '_'

def integerToken (digits : List Char) : Except Cause Token :=
  let value := Nat.ofDigitChars 10 digits 0
  if value ≤ maxLiteral then .ok (.integer value) else .error .integerOverflow

def wordToken (word : List Char) : Except Cause Token :=
  if word = ['y', 'e', 'a', 'r'] then .ok .year
  else if word = ['t', 'r', 'u', 'e'] then .ok (.boolean true)
  else if word = ['f', 'a', 'l', 's', 'e'] then .ok (.boolean false)
  else .error (.unknownIdentifier (String.ofList word))

def operatorToken (c : Char) (following : Option Char) : Except Cause (Token × Nat) :=
  match c, following with
  | '%', _ => .ok (.percent, 1)
  | '(', _ => .ok (.openParen, 1)
  | ')', _ => .ok (.closeParen, 1)
  | '=', some '=' => .ok (.equal, 2)
  | '!', some '=' => .ok (.notEqual, 2)
  | '&', some '&' => .ok (.and, 2)
  | '|', some '|' => .ok (.or, 2)
  | c, _ => .error (.unexpectedCharacter c)

/-- The token that starts with `c`, and how many characters of `rest` belong to it. Runs of digits
and of word characters are taken whole. -/
def tokenAt (c : Char) (rest : List Char) : Except Cause (Token × Nat) :=
  if c.isDigit then
    let more := rest.takeWhile Char.isDigit
    (integerToken (c :: more)).map fun t => (t, more.length)
  else if isWordStart c then
    let more := rest.takeWhile isWordChar
    (wordToken (c :: more)).map fun t => (t, more.length)
  else (operatorToken c rest.head?).map fun (t, length) => (t, length - 1)

def tokensFrom (column : Nat) (cs : List Char) : Except Fault (List Placed) :=
  match cs with
  | [] => .ok []
  | c :: rest =>
    if Text.isSpace c then tokensFrom (column + 1) rest
    else
      match tokenAt c rest with
      | .error cause => .error ⟨cause, column⟩
      | .ok (token, more) =>
        (tokensFrom (column + 1 + more) (rest.drop more)).map (⟨token, column⟩ :: ·)
termination_by cs.length
decreasing_by all_goals (simp only [List.length_cons, List.length_drop]; omega)

def tokenize (source : String) : Except Fault (List Placed) := tokensFrom 1 source.toList

end Holidays.LeapRule
