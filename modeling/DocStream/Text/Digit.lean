/-! ASCII digits in bases up to sixteen, and the numbers that they write. -/

namespace DocStream.Text

def digitIn (base : Nat) (c : Char) : Option Nat :=
  let d :=
    if c.isDigit then c.toNat - '0'.toNat
    else if 'a' ≤ c && c ≤ 'f' then c.toNat - 'a'.toNat + 10
    else if 'A' ≤ c && c ≤ 'F' then c.toNat - 'A'.toNat + 10
    else base
  if d < base then some d else none

def isDigitIn (base : Nat) (c : Char) : Bool := (digitIn base c).isSome

def appendDigit (base n : Nat) (c : Char) : Nat := base * n + (digitIn base c).getD 0

def natOf (base : Nat) (digits : List Char) : Nat := digits.foldl (appendDigit base) 0

end DocStream.Text
