import DocStream.Toml.Reader.Basic

/-! Strings, on one line or on many, and keys. There are less than 80 keys before the last of a
dotted one. -/

namespace DocStream.Toml.Reader

def numbered (count : Nat) (value : Nat) : Reader Char :=
  match count with
  | 0 => if value < 0xd800 || (0xdfff < value && value < 0x110000) then
      return Char.ofNat value else fail
  | count + 1 => do
    match Text.digitIn 16 (← next) with
    | some d => numbered count (16 * value + d)
    | none => fail

def escape : Reader Char := do
  match ← next with
  | 'b' => return '\x08'
  | 't' => return '\t'
  | 'n' => return '\n'
  | 'f' => return '\x0c'
  | 'r' => return '\r'
  | '"' => return '"'
  | '\\' => return '\\'
  | 'u' => numbered 4 0
  | 'U' => numbered 8 0
  | _ => fail

def isTextChar (c : Char) : Bool :=
  c = '\t' || (0x20 ≤ c.toNat && c.toNat ≤ 0x7e) || isBeyondAscii c

def shortFrom (mark : Char) : Nat → Reader (List Char)
  | 0 => fail
  | fuel + 1 => do
    let c ← next
    if c = mark then return []
    else if c = '\\' && mark = '"' then
      let c ← escape
      return c :: (← shortFrom mark fuel)
    else if isTextChar c then return c :: (← shortFrom mark fuel)
    else fail

def short (mark : Char) : Reader String := do
  return String.ofList (← shortFrom mark ((← get).length + 1))

def foldFrom : Nat → Reader Unit
  | 0 => return
  | fuel + 1 => do
    blanks
    if ← lineEnd? then foldFrom fuel

def fold? : Reader Bool := do
  let folded ← attempt do
    blanks
    if !(← lineEnd?) then fail
    foldFrom ((← get).length + 1)
  return folded.isSome

/-- A string of any number of lines. Three marks end it, and up to two more before them belong to
it. -/
def longFrom (mark : Char) : Nat → Reader (List Char)
  | 0 => fail
  | fuel + 1 => do
    let marks ← run (· = mark)
    if 3 ≤ marks.length then
      if marks.length ≤ 5 then return marks.drop 3 else fail
    else if !marks.isEmpty then return marks ++ (← longFrom mark fuel)
    else if ← lineEnd? then return '\n' :: (← longFrom mark fuel)
    else
      let c ← next
      if c = '\\' && mark = '"' then
        if ← fold? then longFrom mark fuel
        else
          let c ← escape
          return c :: (← longFrom mark fuel)
      else if isTextChar c then return c :: (← longFrom mark fuel)
      else fail

def text (mark : Char) : Reader String := do
  if (← attempt (exactly [mark, mark, mark])).isSome then
    let _ ← lineEnd?
    return String.ofList (← longFrom mark ((← get).length + 1))
  else
    skip
    short mark

/-! ### Keys -/

def isKeyChar (c : Char) : Bool :=
  c.isAlphanum || c = '-' || c = '_'

def simpleKey : Reader String := do
  match ← peek with
  | some '"' => skip; short '"'
  | some '\x27' => skip; short '\x27'
  | _ =>
    let cs ← run isKeyChar
    if cs.isEmpty then fail else return String.ofList cs

def maxNesting : Nat := 80

def keyFrom : Nat → Reader (List String × String)
  | 0 => fail
  | fuel + 1 => do
    blanks
    let k ← simpleKey
    blanks
    if ← take? '.' then
      let (path, last) ← keyFrom fuel
      return (k :: path, last)
    else return ([], k)

def key : Reader (List String × String) := keyFrom (maxNesting - 1)

end DocStream.Toml.Reader
