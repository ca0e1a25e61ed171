namespace Holidays.Text

def naturalChars (n : Nat) : List Char := Nat.toDigits 10 n

def natural (n : Nat) : String := String.ofList (naturalChars n)

def integerChars (n : Int) : List Char :=
  if n < 0 then '-' :: naturalChars n.natAbs else naturalChars n.natAbs

def integer (n : Int) : String := String.ofList (integerChars n)

def padded (width n : Nat) : List Char :=
  List.replicate (width - (naturalChars n).length) '0' ++ naturalChars n

/-- At least `width` characters, the sign of a negative number among them. -/
def paddedInteger (width : Nat) (n : Int) : List Char :=
  if n < 0 then '-' :: padded (width - 1) n.natAbs else padded width n.natAbs

def numeralUpTo? (limit : Nat) (cs : List Char) : Option (Nat × List Char) :=
  let digits := (cs.take limit).takeWhile Char.isDigit
  if digits = [] then none else some (Nat.ofDigitChars 10 digits 0, cs.drop digits.length)

end Holidays.Text
