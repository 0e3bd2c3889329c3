import DocStream.Event

/-! Event trees. A stream is read back into the forest it flattens by one pass with a stack of open
containers; the first event that no container allows is reported with its position, and a stream
that ends too early with the number of containers it leaves open. -/

namespace DocStream

inductive Tree where
  | leaf (event : Event)
  | node (opener closer : Event) (children : List Tree)
deriving Inhabited

namespace Tree

mutual

def flatten : Tree → List Event
  | leaf e => [e]
  | node o c children => o :: flattenAll children ++ [c]

def flattenAll : List Tree → List Event
  | [] => []
  | t :: ts => t.flatten ++ flattenAll ts

end

end Tree

inductive BalanceError where
  | unexpectedEnd (position : Nat) (found : Event)
  | mismatched (position : Nat) (opener found : Event)
  | unclosed (count : Nat)
deriving DecidableEq

namespace BalanceError

def message : BalanceError → String
  | unexpectedEnd p found =>
    "unexpected " ++ found.line ++ " at position " ++ toString p ++ ": no open event"
  | mismatched p opener found =>
    "mismatched events at position " ++ toString p ++ ": " ++ found.line ++ " does not close " ++
      opener.line
  | unclosed n =>
    "unclosed events: " ++ toString n ++ " still open at the end of the stream"

end BalanceError

namespace Forest

/-- An open container and the finished trees before it on its level, latest first. -/
structure Frame where
  opener : Event
  before : List Tree

/-- The open containers, innermost first, and the finished trees of the innermost level, latest
first. -/
structure Progress where
  frames : List Frame := []
  level : List Tree := []

def Progress.step (s : Progress) (position : Nat) (e : Event) : Except BalanceError Progress :=
  if e.isOpening then .ok ⟨⟨e, s.level⟩ :: s.frames, []⟩
  else if e.isClosing then
    match s.frames with
    | [] => .error (.unexpectedEnd position e)
    | f :: frames =>
      if e.closes f.opener then .ok ⟨frames, .node f.opener e s.level.reverse :: f.before⟩
      else .error (.mismatched position f.opener e)
  else .ok { s with level := .leaf e :: s.level }

def Progress.finish (s : Progress) : Except BalanceError (List Tree) :=
  if s.frames.isEmpty then .ok s.level.reverse else .error (.unclosed s.frames.length)

def resume (s : Progress) (position : Nat) : List Event → Except BalanceError (List Tree)
  | [] => s.finish
  | e :: es =>
    match s.step position e with
    | .ok s => resume s (position + 1) es
    | .error err => .error err

def ofEvents (es : List Event) : Except BalanceError (List Tree) := resume {} 0 es

def validate (es : List Event) : Except BalanceError Unit := (ofEvents es).map fun _ => ()

end Forest

end DocStream
