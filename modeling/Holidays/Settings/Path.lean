import Holidays.Settings.Number
import Holidays.Text.Reader
import Holidays.Width

/-!
Paths to settings, such as `generate.days[0].name`: a name leads into a table, a place in brackets
into a list. A negative place counts from the end of its list.
-/
namespace Holidays

inductive PathStep where
  | name (name : String)
  | place (index : Int)
deriving DecidableEq

abbrev SettingPath := List PathStep

namespace SettingPath

open Text (Rest Reader)

def isNameChar (c : Char) : Bool := c.isAlphanum || c == '_' || c == '-'

def isBlank (c : Char) : Bool := c == ' ' || c == '\t'

def placeOf? (cs : List Char) : Option Int :=
  match ((cs.dropWhile isBlank).reverse.dropWhile isBlank).reverse with
  | '-' :: digits => (Number.digits? digits).bind fun n => fit64? (-n)
  | digits => (Number.digits? digits).bind fun n => fit64? n

def place : Reader Int := fun cs =>
  if closed : ']' ∈ cs then
    (placeOf? (cs.takeWhile (· ≠ ']'))).map fun index =>
      (index, ⟨(cs.dropWhile (· ≠ ']')).drop 1, by
        have fewer : (cs.dropWhile (· ≠ ']')).length ≤ cs.length :=
          (List.dropWhile_sublist _).length_le
        have := List.length_pos_of_mem closed
        rw [List.length_drop]
        omega⟩)
  else none

def steps? (cs : List Char) : Option SettingPath :=
  match cs with
  | [] => some []
  | '.' :: rest =>
    match Text.run isNameChar rest with
    | none => none
    | some (name, ⟨left, _⟩) => (steps? left).map (.name (String.ofList name) :: ·)
  | '[' :: rest =>
    match place rest with
    | none => none
    | some (index, ⟨left, _⟩) => (steps? left).map (.place index :: ·)
  | _ => none
termination_by cs.length
decreasing_by all_goals simp only [List.length_cons]; omega

def ofText (text : String) : SettingPath := (steps? ('.' :: text.toList)).getD [.name text]

end SettingPath

end Holidays
