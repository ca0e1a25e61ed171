/-!
White space as Unicode lists it (property `White_Space`), and trimming by it.
Core's `Char.isWhitespace` knows four of these characters; `isSpace` knows them all.
-/
namespace Holidays.Text

/-- The 25 characters with the Unicode property `White_Space`. -/
def isSpace (c : Char) : Bool :=
  let n := c.toNat
  (9 ≤ n && n ≤ 13) || n == 0x20 || n == 0x85 || n == 0xA0 || n == 0x1680 ||
  (0x2000 ≤ n && n ≤ 0x200A) || n == 0x2028 || n == 0x2029 || n == 0x202F || n == 0x205F ||
  n == 0x3000

def dropSpaces (cs : List Char) : List Char := cs.dropWhile isSpace

def trimChars (cs : List Char) : List Char := (dropSpaces (dropSpaces cs).reverse).reverse

def trim (s : String) : String := String.ofList (trimChars s.toList)

def isBlank (s : String) : Bool := (trimChars s.toList).isEmpty

end Holidays.Text
