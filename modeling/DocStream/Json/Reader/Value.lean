import DocStream.Json.Reader.Bracket
import DocStream.Json.Reader.Number

/-! Values of any type, read under a limit on the nesting of brackets. Values nobody asked for are
passed over without it, and without a look at the size of their numbers or the pairing of their
surrogates. -/

namespace DocStream.Json.Reader

/-- A value whose brackets nest less than `depth` deep. An object keeps its members by their keys,
the last of those with one key. -/
def value : (depth : Nat) → Reader Json
  | 0 => failNext .tooDeep
  | depth + 1 => do
    match ← peekToken with
    | none => failNext .endInValue
    | some 'n' => skip; literal ['u', 'l', 'l']; return .null
    | some 't' => skip; literal ['r', 'u', 'e']; return .bool true
    | some 'f' => skip; literal ['a', 'l', 's', 'e']; return .bool false
    | some '-' => skip; return .number (← number true)
    | some '"' => skip; return .string (← text)
    | some '[' =>
      if depth = 0 then failNext .tooDeep
      skip
      let items ← elements (value depth)
      skip
      return .array items
    | some '\x7b' =>
      if depth = 0 then failNext .tooDeep
      skip
      let ms ← members (value depth)
      skip
      return .object (Dictionary.ofList ms).entries
    | some c => if c.isDigit then return .number (← number false) else failNext .valueExpected

def skipDigits : Reader Bool := return !(← run Char.isDigit).isEmpty

def skipNumber : Reader Unit := do
  match ← peek with
  | some '0' =>
    skip
    if (← peek).any Char.isDigit then failNext .badNumber
  | some c => if c.isDigit then let _ ← skipDigits else failNext .badNumber
  | none => failHere .badNumber
  if (← peek) = some '.' then
    skip
    if !(← skipDigits) then failNext .badNumber
  if (← peek) = some 'e' || (← peek) = some 'E' then
    skip
    if (← peek) = some '+' || (← peek) = some '-' then skip
    if (← peek).any Char.isDigit then let _ ← skipDigits else failNext .badNumber

mutual

def skipValueFrom : Nat → Reader Unit
  | 0 => failHere .endInValue
  | fuel + 1 => do
    match ← peekToken with
    | none => failNext .endInValue
    | some 'n' => skip; literal ['u', 'l', 'l']
    | some 't' => skip; literal ['r', 'u', 'e']
    | some 'f' => skip; literal ['a', 'l', 's', 'e']
    | some '-' => skip; skipNumber
    | some '"' => skip; skipText
    | some '[' =>
      skip
      match ← peekToken with
      | some ']' => skip
      | none => failNext .endInList
      | some _ => skipItemsFrom fuel
    | some '\x7b' =>
      skip
      match ← peekToken with
      | some '\x7d' => skip
      | none => failNext .endInObject
      | some _ => skipMembersFrom fuel
    | some c => if c.isDigit then skipNumber else failNext .valueExpected

def skipItemsFrom : Nat → Reader Unit
  | 0 => failHere .endInList
  | fuel + 1 => do
    skipValueFrom fuel
    match ← peekToken with
    | some ',' => skip; skipItemsFrom fuel
    | some ']' => skip
    | some _ => failNext .listCommaExpected
    | none => failNext .endInList

def skipMembersFrom : Nat → Reader Unit
  | 0 => failHere .endInObject
  | fuel + 1 => do
    match ← peekToken with
    | some '"' => skip
    | some _ => failNext .keyNotString
    | none => failNext .endInObject
    skipText
    colon
    skipValueFrom fuel
    match ← peekToken with
    | some ',' => skip; skipMembersFrom fuel
    | some '\x7d' => skip
    | some _ => failNext .objectCommaExpected
    | none => failNext .endInObject

end

def skipValue : Reader Unit := do
  skipValueFrom (2 * (← get).rest.length + 2)

def finish : Reader Unit := do
  if (← peekToken).isSome then failNext .trailingCharacters

end DocStream.Json.Reader
