import DocStream.Binary64

/-! The shortest decimal that reads back as a given double: on the coarsest decimal grid that has a
point in the interval of numbers rounding to the value, the point nearest to it. -/

namespace DocStream.Decimal

structure Scaled where
  digits : Nat
  exponent : Int
deriving DecidableEq, Repr

/-- Four times the ends and the middle of the interval that rounds to `mantissa`, in units of the
value's own exponent. Below a power of two the neighbours are half as far apart. -/
def interval (x : Binary64) : Nat × Nat × Nat :=
  let m := 4 * x.mantissa
  let below := if x.mantissa = Nat.pow 2 52 && Binary64.leastExponent < x.exponent then 1 else 2
  (m - below, m, m + 2)

def compareScaled (digits : Nat) (p : Int) (n : Nat) (q : Int) : Ordering :=
  let a := digits * Nat.pow 10 p.toNat * Nat.pow 2 (-q).toNat
  let b := n * Nat.pow 2 q.toNat * Nat.pow 10 (-p).toNat
  compare a b

/-- Whether a decimal lies in the interval, whose ends belong to it when the mantissa is even. -/
def readsBack (x : Binary64) (digits : Nat) (p : Int) : Bool :=
  let (lo, _, hi) := interval x
  let q := x.exponent - 2
  let even := x.mantissa % 2 = 0
  let low := compareScaled digits p lo q
  let high := compareScaled digits p hi q
  (low == .gt || (even && low == .eq)) && (high == .lt || (even && high == .eq))

def floorAt (x : Binary64) (p : Int) : Nat :=
  let (a, b) := x.quotient
  (a * Nat.pow 10 (-p).toNat) / (b * Nat.pow 10 p.toNat)

def upperNearer (x : Binary64) (low : Nat) (p : Int) : Bool :=
  match compareScaled (2 * low + 1) p (2 * x.mantissa) x.exponent with
  | .lt => true
  | .eq => low % 2 = 1
  | .gt => false

def onGrid (x : Binary64) (p : Int) : Option Scaled :=
  let low := floorAt x p
  let lowFits := readsBack x low p
  let highFits := readsBack x (low + 1) p
  if lowFits && highFits then some ⟨if upperNearer x low p then low + 1 else low, p⟩
  else if lowFits then some ⟨low, p⟩
  else if highFits then some ⟨low + 1, p⟩
  else none

def leadExponent (x : Binary64) : Int :=
  let (a, b) := x.quotient
  if b ≤ a then ((Nat.toDigits 10 (a / b)).length : Int) - 1
  else
    let k := (Nat.toDigits 10 (b / a)).length
    if b ≤ a * Nat.pow 10 (k - 1) then -((k : Int) - 1) else -(k : Int)

def Scaled.trim (d : Scaled) : Nat → Scaled
  | 0 => d
  | fuel + 1 =>
    if d.digits ≠ 0 && d.digits % 10 = 0 then Scaled.trim ⟨d.digits / 10, d.exponent + 1⟩ fuel
    else d

/-- Tries 1, 2, … digits; seventeen always do. -/
def search (x : Binary64) (lead : Int) (count : Nat) : Nat → Scaled
  | 0 => ⟨floorAt x (lead - count), lead - count⟩
  | fuel + 1 =>
    match onGrid x (lead - count) with
    | some d => d
    | none => search x lead (count + 1) fuel

def shortest (x : Binary64) : Scaled :=
  if x.mantissa = 0 then ⟨0, 0⟩ else (search x (leadExponent x) 0 17).trim 20

def Scaled.leadForm (d : Scaled) : List Char × Int :=
  let ds := Nat.toDigits 10 d.digits
  (ds, d.exponent + (ds.length : Int) - 1)

/-- Digits around a decimal point, with zeros filling the gap between them and the point. At least
`minFraction` digits follow the point, which is left out when none do. -/
def positional (digits : List Char) (lead : Int) (minFraction : Nat) : List Char :=
  let whole :=
    if 0 ≤ lead then
      let n := lead.toNat + 1
      digits.take n ++ List.replicate (n - digits.length) '0'
    else ['0']
  let fraction :=
    if 0 ≤ lead then digits.drop (lead.toNat + 1)
    else List.replicate (-lead - 1).toNat '0' ++ digits
  let fraction := fraction ++ List.replicate (minFraction - fraction.length) '0'
  if fraction.isEmpty then whole else whole ++ '.' :: fraction

def scientific (digits : List Char) (lead : Int) : List Char :=
  let sign := if lead < 0 then '-' else '+'
  let tail := match digits with
    | d :: [] => [d]
    | d :: ds => d :: '.' :: ds
    | [] => []
  tail ++ 'e' :: sign :: Nat.toDigits 10 lead.natAbs

end DocStream.Decimal
