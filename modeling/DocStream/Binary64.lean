/-! Double-precision numbers as exact values `± mantissa · 2 ^ exponent`, with the rounding of
quotients and products done in whole numbers: to the nearest representable value, a tie to the even
mantissa. Only finite values are represented; what is too large has no value here. -/

namespace DocStream

structure Binary64 where
  negative : Bool
  mantissa : Nat
  exponent : Int
deriving DecidableEq, Repr, Inhabited

namespace Binary64

def zero : Binary64 := ⟨false, 0, 0⟩

def isZero (x : Binary64) : Bool := x.mantissa == 0

def leastExponent : Int := -1074

def greatestExponent : Int := 971

/-- The nearest whole number to a quotient, a half going to the even neighbour. -/
def roundQuotient (num den : Nat) : Nat :=
  let q := num / den
  let r := num % den
  if 2 * r < den then q else if den < 2 * r then q + 1 else if q % 2 = 0 then q else q + 1

def roundAt (num den : Nat) (e : Int) : Nat :=
  if 0 ≤ e then roundQuotient num (den * Nat.pow 2 e.toNat)
  else roundQuotient (num * Nat.pow 2 (-e).toNat) den

/-- The power of two in which the quotient has 53 binary digits, or the least one there is. -/
def exponentFor (num den : Nat) : Int :=
  let e : Int := (num.log2 : Int) - (den.log2 : Int) - 52
  let small :=
    if 0 ≤ e then num < den * Nat.pow 2 e.toNat * Nat.pow 2 52
    else num * Nat.pow 2 (-e).toNat < den * Nat.pow 2 52
  max (if small then e - 1 else e) leastExponent

def ofQuotient (negative : Bool) (num den : Nat) : Option Binary64 :=
  if den = 0 then none
  else if num = 0 then some ⟨negative, 0, 0⟩
  else
    let e := exponentFor num den
    let m := roundAt num den e
    let (m, e) := if m = Nat.pow 2 53 then (Nat.pow 2 52, e + 1) else (m, e)
    if m = 0 then some ⟨negative, 0, 0⟩
    else if greatestExponent < e then none
    else some ⟨negative, m, e⟩

def ofDecimal (negative : Bool) (digits : Nat) (exponent : Int) : Option Binary64 :=
  if digits = 0 then some ⟨negative, 0, 0⟩
  else if 0 ≤ exponent then
    if 400 < exponent then none else ofQuotient negative (digits * Nat.pow 10 exponent.toNat) 1
  else if (Nat.toDigits 10 digits).length + 400 < (-exponent).toNat then some ⟨negative, 0, 0⟩
  else ofQuotient negative digits (Nat.pow 10 (-exponent).toNat)

def quotient (x : Binary64) : Nat × Nat :=
  if 0 ≤ x.exponent then (x.mantissa * Nat.pow 2 x.exponent.toNat, 1)
  else (x.mantissa, Nat.pow 2 (-x.exponent).toNat)

def mul (x y : Binary64) : Option Binary64 :=
  let (a, b) := x.quotient
  let (c, d) := y.quotient
  ofQuotient (x.negative != y.negative) (a * c) (b * d)

def div (x y : Binary64) : Option Binary64 :=
  let (a, b) := x.quotient
  let (c, d) := y.quotient
  ofQuotient (x.negative != y.negative) (a * d) (b * c)

def ofNat (n : Nat) : Option Binary64 := ofQuotient false n 1

def roundSize (x : Binary64) : Nat :=
  let (a, b) := x.quotient
  (2 * a + b) / (2 * b)

inductive Extended where
  | finite (x : Binary64)
  | infinite (negative : Bool)
  | notANumber
deriving DecidableEq, Repr

namespace Extended

def isZero : Extended → Bool
  | finite x => x.isZero
  | _ => false

def clamp (limit : Nat) : Extended → Nat
  | finite x => if x.negative then 0 else min x.roundSize limit
  | infinite negative => if negative then 0 else limit
  | notANumber => 0

end Extended

end Binary64

end DocStream
