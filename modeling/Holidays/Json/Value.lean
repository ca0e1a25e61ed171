import Holidays.Decimal

/-!
JSON values that keep what documents depend on: the order of an object's members, repeated
names, and whether a number was written as an integer.
-/
namespace Holidays

inductive Json where
  | null
  | bool (value : Bool)
  /-- An integer of -2^63 .. 2^64 - 1, written without a fraction or an exponent. -/
  | int (value : Int)
  /-- Any other number: whether a minus stands before it, and its size. -/
  | float (negative : Bool) (size : Double)
  | str (value : String)
  | arr (items : List Json)
  | obj (members : List (String × Json))
deriving Inhabited, Repr

end Holidays
