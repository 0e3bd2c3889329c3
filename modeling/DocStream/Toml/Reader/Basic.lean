import DocStream.Text.Digit
import DocStream.Toml.Value

/-! A reader of TOML takes from the front of the text or fails, without saying why. -/

namespace DocStream.Toml

abbrev Reader := StateT (List Char) Option

namespace Reader

def fail {α : Type} : Reader α := fun _ => none

def attempt {α : Type} (p : Reader α) : Reader (Option α) := fun cs =>
  match p cs with
  | some (a, rest) => some (some a, rest)
  | none => some (none, cs)

def peek : Reader (Option Char) := return (← get).head?

def next : Reader Char := fun cs =>
  match cs with
  | [] => none
  | c :: rest => some (c, rest)

def skip : Reader Unit := modify List.tail

def run (p : Char → Bool) : Reader (List Char) := modifyGet fun cs =>
  (cs.takeWhile p, cs.dropWhile p)

def exactly (text : List Char) : Reader Unit := fun cs =>
  if text.isPrefixOf cs then some ((), cs.drop text.length) else none

def take? (c : Char) : Reader Bool := do
  if (← peek) = some c then
    skip
    return true
  else return false

/-! ### Blanks, comments and line ends -/

def isBlank (c : Char) : Bool := c = ' ' || c = '\t'

def blanks : Reader Unit := do
  let _ ← run isBlank

def isBeyondAscii (c : Char) : Bool := 0x80 ≤ c.toNat

def isCommentChar (c : Char) : Bool :=
  c = '\t' || (0x20 ≤ c.toNat && c.toNat ≤ 0x7f) || isBeyondAscii c

def lineEnd? : Reader Bool := modifyGet fun cs =>
  match cs with
  | '\n' :: rest => (true, rest)
  | '\r' :: '\n' :: rest => (true, rest)
  | cs => (false, cs)

def comment? : Reader Unit := do
  if ← take? '#' then
    let _ ← run isCommentChar

def restOfLine : Reader Unit := do
  blanks
  comment?
  if !(← lineEnd?) && !(← get).isEmpty then fail

def gapFrom : Nat → Reader Unit
  | 0 => return
  | fuel + 1 => do
    blanks
    comment?
    if ← lineEnd? then gapFrom fuel

def gap : Reader Unit := do
  gapFrom ((← get).length + 1)

end Reader

end DocStream.Toml
