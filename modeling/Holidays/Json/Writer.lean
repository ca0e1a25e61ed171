import Holidays.Json.Value
import Holidays.Text.Numeral

namespace Holidays.Json

def hexDigit (n : Nat) : Char := if n < 10 then Char.ofNat (48 + n) else Char.ofNat (87 + n)

def escape (c : Char) : List Char :=
  match c with
  | '"' => ['\\', '"']
  | '\\' => ['\\', '\\']
  | '\n' => ['\\', 'n']
  | '\r' => ['\\', 'r']
  | '\t' => ['\\', 't']
  | '\x08' => ['\\', 'b']
  | '\x0c' => ['\\', 'f']
  | c =>
    if c.toNat < 32 then ['\\', 'u', '0', '0', hexDigit (c.toNat / 16), hexDigit (c.toNat % 16)]
    else [c]

def quoted (s : String) : List Char := '"' :: (s.toList.flatMap escape ++ ['"'])

/-- What stands around and between the items of an array or object `depth` levels down. -/
structure Layout where
  /-- Before each item and before the closing bracket, at the depth of what follows. -/
  newline : Nat → List Char
  colon : List Char

def Layout.compact : Layout := ⟨fun _ => [], [':']⟩

def Layout.pretty : Layout := ⟨fun depth => '\n' :: List.replicate (2 * depth) ' ', [':', ' ']⟩

/-- The fewest digits that have the double as their nearest, and a power of ten. -/
def floatChars (negative : Bool) (size : Double) : List Char :=
  let d := size.shortest
  let digits := Text.naturalChars d.digits ++ 'e' :: Text.integerChars d.exponent
  if negative then '-' :: digits else digits

mutual

def chars (layout : Layout) (depth : Nat) : Json → List Char
  | .null => ['n', 'u', 'l', 'l']
  | .bool true => ['t', 'r', 'u', 'e']
  | .bool false => ['f', 'a', 'l', 's', 'e']
  | .int n => Text.integerChars n
  | .float negative size => floatChars negative size
  | .str s => quoted s
  | .arr [] => ['[', ']']
  | .arr (item :: items) =>
    '[' :: (layout.newline (depth + 1) ++ chars layout (depth + 1) item ++
      (itemChars layout (depth + 1) items ++ (layout.newline depth ++ [']'])))
  | .obj [] => ['\x7b', '\x7d']
  | .obj ((name, value) :: members) =>
    '\x7b' :: (layout.newline (depth + 1) ++ (quoted name ++ (layout.colon ++
      (chars layout (depth + 1) value ++
        (memberChars layout (depth + 1) members ++ (layout.newline depth ++ ['\x7d']))))))

def itemChars (layout : Layout) (depth : Nat) : List Json → List Char
  | [] => []
  | item :: items =>
    ',' :: (layout.newline depth ++ (chars layout depth item ++ itemChars layout depth items))

def memberChars (layout : Layout) (depth : Nat) : List (String × Json) → List Char
  | [] => []
  | (name, value) :: members =>
    ',' :: (layout.newline depth ++ (quoted name ++ (layout.colon ++
      (chars layout depth value ++ memberChars layout depth members))))

end

def compact (j : Json) : String := String.ofList (chars .compact 0 j)

def pretty (j : Json) : String := String.ofList (chars .pretty 0 j)

end Holidays.Json
