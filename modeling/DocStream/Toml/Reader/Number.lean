import DocStream.Toml.Reader.Text

/-! Numbers: whole ones of 64 bits in four bases, and doubles. -/

namespace DocStream.Toml.Reader

def digitRun (digit : Char → Bool) : Reader (List Char) := do
  let cs ← run fun c => digit c || c = '_'
  let apart : Bool := (cs.zip cs.tail).all fun (a, b) => a ≠ '_' || b ≠ '_'
  if apart && cs.head?.any digit && cs.getLast?.any digit then return cs.filter digit else fail

def inRange (n : Int) : Reader Toml :=
  if -Int.pow 2 63 ≤ n && n < Int.pow 2 63 then return .integer n else fail

def based (base : Nat) : Reader Toml := do
  inRange (Text.natOf base (← digitRun (Text.isDigitIn base)))

def sign : Reader (Option Bool) := do
  if ← take? '-' then return some true
  else if ← take? '+' then return some false
  else return none

def fraction : Reader (Option (List Char)) := do
  if ← take? '.' then return some (← digitRun Char.isDigit) else return none

def exponent : Reader (Option Int) := do
  if (← peek) = some 'e' || (← peek) = some 'E' then
    skip
    let down := (← sign).getD false
    let n := Text.natOf 10 (← digitRun Char.isDigit)
    return some (if down then -(n : Int) else n)
  else return none

/-- A number in decimal digits. Too large a double is refused, unless it is negative. -/
def decimal (negative : Bool) : Reader Toml := do
  let whole ← digitRun Char.isDigit
  if whole.head? = some '0' && 1 < whole.length then fail
  let part ← fraction
  let scale ← exponent
  if part.isNone && scale.isNone then
    let n := Text.natOf 10 whole
    inRange (if negative then -(n : Int) else n)
  else
    let part := part.getD []
    match Binary64.ofDecimal negative (Text.natOf 10 (whole ++ part))
        (scale.getD 0 - (part.length : Int)) with
    | some x => return .real (.finite x)
    | none => if negative then return .real (.infinite true) else fail

def number : Reader Toml := do
  let s ← sign
  let negative := s.getD false
  match ← get with
  | 'i' :: _ => exactly "inf".toList; return .real (.infinite negative)
  | 'n' :: _ => exactly "nan".toList; return .real .notANumber
  | '0' :: 'x' :: rest => if s.isSome then fail else set rest; based 16
  | '0' :: 'o' :: rest => if s.isSome then fail else set rest; based 8
  | '0' :: 'b' :: rest => if s.isSome then fail else set rest; based 2
  | _ => decimal negative

end DocStream.Toml.Reader
