import DocStream.Dictionary
import DocStream.Json.Fault
import DocStream.Text.Digit

/-! A reader of JSON takes from the front of a text and counts bytes, so that a fault can say
where it is. -/

namespace DocStream.Json

structure Cursor where
  rest : List Char
  offset : Nat

abbrev Reader := StateT Cursor (Except Fault)

namespace Reader

def failAt {α : Type} (offset : Nat) (cause : Cause) : Reader α := throw ⟨cause, offset⟩

def failHere {α : Type} (cause : Cause) : Reader α := do
  failAt (← get).offset cause

def failNext {α : Type} (cause : Cause) : Reader α := do
  let c ← get
  failAt (if c.rest.isEmpty then c.offset else c.offset + 1) cause

def peek : Reader (Option Char) := return (← get).rest.head?

def skip : Reader Unit := modify fun c =>
  match c.rest with
  | [] => c
  | x :: xs => ⟨xs, c.offset + x.utf8Size⟩

def isSpace (c : Char) : Bool := c = ' ' || c = '\n' || c = '\t' || c = '\r'

def run (p : Char → Bool) : Reader (List Char) := do
  let c ← get
  let taken := c.rest.takeWhile p
  set (⟨c.rest.dropWhile p, c.offset + taken.length⟩ : Cursor)
  return taken

def peekToken : Reader (Option Char) := do
  let _ ← run isSpace
  peek

end Reader

end DocStream.Json
