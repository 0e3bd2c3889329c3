import DocStream.Json.Reader.Basic

/-! Literals and numbers. A whole number that fits a machine word stays whole; any other is a
double, made of the digits that fit and a power of ten. -/

namespace DocStream.Json.Reader

def literal : List Char → Reader Unit
  | [] => return
  | x :: xs => do
    match ← peek with
    | none => failHere .endInValue
    | some c =>
      if c = x then
        skip
        literal xs
      else failNext .identExpected

def maxWord : Nat := Nat.pow 2 64 - 1

def accumulate (n : Nat) : List Char → Nat × Nat
  | [] => (n, 0)
  | d :: ds =>
    let n' := Text.appendDigit 10 n d
    if maxWord < n' then (n, 0)
    else
      let (m, k) := accumulate n' ds
      (m, k + 1)

def powerOfTen (k : Nat) : Binary64 := (Binary64.ofDecimal false 1 k).getD .zero

/-- Divides by powers of ten, the greatest there is first, rounding each time. Two of the greatest
leave nothing of a machine word. -/
def scaleDown (f : Binary64) (k : Nat) : Nat → Option Binary64
  | 0 => some .zero
  | fuel + 1 =>
    if k ≤ 308 then f.div (powerOfTen k)
    else if f.isZero then some f
    else do scaleDown (← f.div (powerOfTen 308)) (k - 308) fuel

def real (word : Nat) (exponent : Int) : Option Binary64 := do
  let f ← Binary64.ofNat word
  if 0 ≤ exponent then
    if exponent ≤ 308 then f.mul (powerOfTen exponent.toNat)
    else if f.isZero then some f
    else none
  else scaleDown f (-exponent).toNat 3

def signed (negative : Bool) (x : Binary64) : JsonNumber :=
  .real { x with negative }

def finishReal (negative : Bool) (word : Nat) (exponent : Int) : Reader JsonNumber :=
  match real word exponent with
  | some x => return signed negative x
  | none => failHere .numberOutOfRange

def maxExponent : Nat := Nat.pow 2 31 - 1

/-- Exponent digits up to the one that exceeds the greatest exponent, which is read as well. -/
def exponentDigits (n : Nat) : List Char → Option Nat × Nat
  | [] => (some n, 0)
  | d :: ds =>
    let n' := Text.appendDigit 10 n d
    if maxExponent < n' then (none, 1)
    else
      let (r, k) := exponentDigits n' ds
      (r, k + 1)

def exponentPart (negative : Bool) (word : Nat) (exponent : Int) : Reader JsonNumber := do
  skip
  let down ← do
    match ← peek with
    | some '+' => skip; pure false
    | some '-' => skip; pure true
    | _ => pure false
  match ← peek with
  | none => failHere .endInValue
  | some c => if !c.isDigit then failNext .badNumber
  let start := (← get).offset
  let digits ← run Char.isDigit
  match exponentDigits 0 digits with
  | (some e, _) => finishReal negative word (if down then exponent - e else exponent + e)
  | (none, read) =>
    if word ≠ 0 && !down then failAt (start + read) .numberOutOfRange
    else return signed negative .zero

def fractionPart (negative : Bool) (word : Nat) (exponent : Int) : Reader JsonNumber := do
  skip
  let digits ← run Char.isDigit
  if digits.isEmpty then
    failNext (if (← peek).isSome then .badNumber else .endInValue)
  let (word, taken) := accumulate word digits
  let exponent := exponent - taken
  match ← peek with
  | some 'e' | some 'E' => exponentPart negative word exponent
  | _ => finishReal negative word exponent

def wholeDigits : Reader (List Char) := do
  match ← peek with
  | none => failHere .endInValue
  | some '0' =>
    skip
    if (← peek).any Char.isDigit then failNext .badNumber
    return ['0']
  | some c => if c.isDigit then run Char.isDigit else failNext .badNumber

def number (negative : Bool) : Reader JsonNumber := do
  let digits ← wholeDigits
  let (word, taken) := accumulate 0 digits
  let dropped := digits.length - taken
  match ← peek with
  | some '.' => fractionPart negative word dropped
  | some 'e' | some 'E' => exponentPart negative word dropped
  | _ =>
    if dropped ≠ 0 then finishReal negative word dropped
    else if !negative then return .integer word
    else if word = 0 || Nat.pow 2 63 < word then finishReal true word 0
    else return .integer (-word)

end DocStream.Json.Reader
