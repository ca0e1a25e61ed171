import Holidays.Civil.DateText
import Holidays.Json.Value

/-!
Decoding by type. A field may go by several names but has to be given once; fields that nobody asks
for do not matter.
-/
namespace Holidays.Json

abbrev Members := List (String × Json)

def asString : Json → Option String
  | .str s => some s
  | _ => none

def asBool : Json → Option Bool
  | .bool b => some b
  | _ => none

def asUInt32 : Json → Option UInt32
  | .int n => if 0 ≤ n ∧ n < 4294967296 then some (UInt32.ofNat n.toNat) else none
  | _ => none

def asInt32 : Json → Option Int32
  | .int n => if Fits32 n then some (Int32.ofInt n) else none
  | _ => none

def asInt64 : Json → Option Int64
  | .int n => if Fits64 n then some (Int64.ofInt n) else none
  | _ => none

def asDate : Json → Option Date
  | .str s => Date.ofText? s
  | _ => none

def asWeekday : Json → Option Weekday
  | .str s => Weekday.ofText? s
  | _ => none

def asList {α : Type} (item : Json → Option α) : Json → Option (List α)
  | .arr items => items.mapM item
  | _ => none

def asMembers : Json → Option Members
  | .obj members => some members
  | _ => none

/-- How strictly alternatives have to be named. What lies within an object that a tag tells apart is
read loosely. -/
inductive Spelling where
  | strict
  | loose
deriving DecidableEq

/-- One of a list of named values, as its text or as an object that holds null under its text;
loosely also an object that holds an empty one. -/
def asOneOf {α : Type} (values : List α) (text : α → String) (spelling : Spelling) :
    Json → Option α
  | .str s => values.find? (text · == s)
  | .obj [(s, .null)] => values.find? (text · == s)
  | .obj [(s, .obj [])] => if spelling = .loose then values.find? (text · == s) else none
  | _ => none

/-- The one value given under any of the names, or none; twice is an error. -/
def only (names : List String) (members : Members) : Option (Option Json) :=
  match members.filter fun m => names.contains m.1 with
  | [] => some none
  | [m] => some (some m.2)
  | _ => none

def required {α : Type} (names : List String) (item : Json → Option α) (members : Members) :
    Option α := do
  item (← (← only names members))

/-- A field that may be missing or null. -/
def optional {α : Type} (names : List String) (item : Json → Option α) (members : Members) :
    Option (Option α) := do
  match ← only names members with
  | none => some none
  | some .null => some none
  | some j => (item j).map some

/-- A field that may be missing but not null. -/
def withDefault {α : Type} (names : List String) (other : α) (item : Json → Option α)
    (members : Members) : Option α := do
  match ← only names members with
  | none => some other
  | some j => item j

/-- The name that tells which of several shapes an object has; loosely also its position. -/
def asTag (spelling : Spelling) (names : List String) : Json → Option String
  | .str s => if names.contains s then some s else none
  | .int n => if spelling = .loose ∧ 0 ≤ n then names[n.toNat]? else none
  | _ => none

def ofOption {α : Type} (name : String) (item : α → Json) : Option α → Members
  | none => []
  | some a => [(name, item a)]

def ofList {α : Type} (item : α → Json) (as : List α) : Json := .arr (as.map item)

def orNull {α : Type} (item : α → Json) : Option α → Json
  | none => .null
  | some a => item a

end Holidays.Json
