import Holidays.Settings.Value
import Holidays.Yaml.Tag

namespace Holidays.Yaml

inductive Node where
  /-- What a tag does not fit, or a node within itself. -/
  | bad
  | null
  | flag (value : Bool)
  | integer (value : Int)
  | real (spelling : String)
  | text (value : String)
  | list (items : List Node)
  | table (entries : List (Node × Node))

namespace Node

mutual

def same : Node → Node → Bool
  | .bad, .bad | .null, .null => true
  | .flag a, .flag b => a == b
  | .integer a, .integer b => a == b
  | .real a, .real b => a == b
  | .text a, .text b => a == b
  | .list xs, .list ys => sameItems xs ys
  | .table xs, .table ys => sameEntries xs ys
  | _, _ => false

def sameItems : List Node → List Node → Bool
  | [], [] => true
  | x :: xs, y :: ys => same x y && sameItems xs ys
  | _, _ => false

def sameEntries : List (Node × Node) → List (Node × Node) → Bool
  | [], [] => true
  | (k, v) :: xs, (l, w) :: ys => same k l && same v w && sameEntries xs ys
  | _, _ => false

end

/-- Names and values in turn as a table, in which no name may come twice. A bad node names nothing,
and a name without a value is dropped. -/
def tableOf? (taken : List (Node × Node)) : List Node → Option Node
  | [] => some (.table taken.reverse)
  | .bad :: rest => tableOf? taken rest
  | [_] => some (.table taken.reverse)
  | k :: v :: rest =>
    if taken.any fun entry => same entry.1 k then none else tableOf? ((k, v) :: taken) rest

def isReal (word : List Char) : Bool :=
  match word with
  | ['.', 'n', 'a', 'n'] | ['.', 'N', 'a', 'N'] | ['.', 'N', 'A', 'N'] => true
  | word =>
    match (Number.signed word).2 with
    | ['.', 'i', 'n', 'f'] | ['.', 'I', 'n', 'f'] | ['.', 'I', 'N', 'F'] => true
    | _ => word.any Char.isDigit && (Number.ofChars? word).isSome

def integer? (word : List Char) : Option Int :=
  match word with
  | '0' :: 'x' :: digits => Number.integer? 16 digits
  | '0' :: 'o' :: digits => Number.integer? 8 digits
  | '+' :: numeral => Number.integer? 10 numeral
  | word => Number.integer? 10 word

def ofWord (word : String) : Node :=
  if ["", "~", "null", "Null", "NULL"].contains word then .null
  else if ["true", "True", "TRUE"].contains word then .flag true
  else if ["false", "False", "FALSE"].contains word then .flag false
  else
    match integer? word.toList with
    | some n => .integer n
    | none => if isReal word.toList then .real word else .text word

def ofTagged (type word : String) : Node :=
  if type = "bool" then
    if word = "true" then .flag true else if word = "false" then .flag false else .bad
  else if type = "int" then ((Number.integer? 10 word.toList).map .integer).getD .bad
  else if type = "float" then if isReal word.toList then .real word else .bad
  else if type = "null" then if word = "~" ∨ word = "null" then .null else .bad
  else .text word

def ofScalar (plain : Bool) (text : String) (tag : Option Tag) : Node :=
  if !plain then .text text
  else
    match tag with
    | none => ofWord text
    | some t => if t.handle = "tag:yaml.org,2002:" then ofTagged t.suffix text else .text text

def name? : Node → Option String
  | .text value => some value
  | .integer n => some (Text.integer n)
  | .flag value => some (if value then "true" else "false")
  | .real spelling => some spelling
  | _ => none

mutual

def setting? : Node → Option Setting
  | .bad | .null => some .absent
  | .flag value => some (.flag value)
  | .integer n => some (.integer n)
  | .real spelling => (Number.ofChars? spelling.toList).map .number
  | .text value => some (.text value)
  | .list items => (settings? items).map .list
  | .table entries => (entries? entries).map .tableOf

def settings? : List Node → Option (List Setting)
  | [] => some []
  | x :: xs => do return (← setting? x) :: (← settings? xs)

def entries? : List (Node × Node) → Option (List (String × Setting))
  | [] => some []
  | (k, v) :: rest => do return ((← k.name?), (← setting? v)) :: (← entries? rest)

end

end Node

end Holidays.Yaml
