import DocStream.Json.Reader.Value

/-! Reading values of a wanted type. A value of another type is read as far as its type shows, and
refused. -/

namespace DocStream.Json.Reader

def found : Reader Found := do
  match ← peek with
  | some 'n' => skip; literal ['u', 'l', 'l']; return .null
  | some 't' => skip; literal ['r', 'u', 'e']; return .bool true
  | some 'f' => skip; literal ['a', 'l', 's', 'e']; return .bool false
  | some '-' => skip; return .number (← number true)
  | some '"' => skip; return .string (← text)
  | some '[' => return .sequence
  | some '\x7b' => return .map
  | some c => if c.isDigit then return .number (← number false) else failNext .valueExpected
  | none => failNext .valueExpected

def wrongType {α : Type} (expected : String) : Reader α := do
  failHere (.wrongType (← found) expected)

def string : Reader String := do
  match ← peekToken with
  | none => failNext .endInValue
  | some '"' => skip; text
  | some _ => wrongType "a string"

def wordOf : JsonNumber → Reader Nat
  | .integer (.ofNat n) => return n
  | .integer n => failHere (.wrongValue (.number (.integer n)) "usize")
  | .real x => failHere (.wrongType (.number (.real x)) "usize")

def word : Reader Nat := do
  match ← peekToken with
  | none => failNext .endInValue
  | some '-' => skip; wordOf (← number true)
  | some c => if c.isDigit then wordOf (← number false) else wrongType "usize"

def optional {α : Type} (item : Reader α) : Reader (Option α) := do
  if (← peekToken) = some 'n' then
    skip
    literal ['u', 'l', 'l']
    return none
  else return some (← item)

def sequence {α : Type} (depth : Nat) (item : Reader α) : Reader (List α) := do
  match ← peekToken with
  | none => failNext .endInValue
  | some '[' =>
    if depth ≤ 1 then failNext .tooDeep
    skip
    let xs ← elements item
    closeList
    return xs
  | some _ => wrongType "a sequence"

def map {α : Type} (depth : Nat) (item : Reader α) : Reader (List (String × α)) := do
  match ← peekToken with
  | none => failNext .endInValue
  | some '\x7b' =>
    if depth ≤ 1 then failNext .tooDeep
    skip
    let ms ← members item
    skip
    return ms
  | some _ => wrongType "a map"

end DocStream.Json.Reader
