import DocStream.Json.Reader.Text

/-! Lists and objects, whatever their items are. -/

namespace DocStream.Json.Reader

def nextElement (first : Bool) : Reader Bool := do
  match ← peekToken with
  | none => failNext .endInList
  | some ']' => return false
  | some c =>
    if first then return true
    else if c = ',' then
      skip
      match ← peekToken with
      | some ']' => failNext .trailingComma
      | some _ => return true
      | none => failNext .endInValue
    else failNext .listCommaExpected

def nextKey (first : Bool) : Reader (Option String) := do
  let keyAt : Option Char → Reader (Option String)
    | some '"' => do
      skip
      return some (← text)
    | some '\x7d' => failNext .trailingComma
    | some _ => failNext .keyNotString
    | none => failNext .endInValue
  match ← peekToken with
  | none => failNext .endInObject
  | some '\x7d' => return none
  | some c =>
    if first then keyAt (some c)
    else if c = ',' then
      skip
      keyAt (← peekToken)
    else failNext .objectCommaExpected

def colon : Reader Unit := do
  match ← peekToken with
  | some ':' => skip
  | some _ => failNext .colonExpected
  | none => failNext .endInObject

def closeList : Reader Unit := do
  match ← peekToken with
  | some ']' => skip
  | some ',' =>
    skip
    failNext (if (← peekToken) = some ']' then .trailingComma else .trailingCharacters)
  | some _ => failNext .trailingCharacters
  | none => failNext .endInList

def elementsFrom {α : Type} (item : Reader α) : (fuel : Nat) → (first : Bool) → Reader (List α)
  | 0, _ => failHere .endInList
  | fuel + 1, first => do
    if ← nextElement first then
      let x ← item
      return x :: (← elementsFrom item fuel false)
    else return []

def elements {α : Type} (item : Reader α) : Reader (List α) := do
  elementsFrom item ((← get).rest.length + 1) true

def membersFrom {α : Type} (item : Reader α) :
    (fuel : Nat) → (first : Bool) → Reader (List (String × α))
  | 0, _ => failHere .endInObject
  | fuel + 1, first => do
    match ← nextKey first with
    | none => return []
    | some k =>
      colon
      let x ← item
      return (k, x) :: (← membersFrom item fuel false)

def members {α : Type} (item : Reader α) : Reader (List (String × α)) := do
  membersFrom item ((← get).rest.length + 1) true

end DocStream.Json.Reader
