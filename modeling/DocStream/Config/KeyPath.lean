import DocStream.Text.Digit

/-! Paths to settings, such as `a.b[0]`: a name, and then names after dots and places in brackets. A
place below zero counts from the end. -/

namespace DocStream.Config

inductive PathStep where
  | name (name : String)
  | place (index : Int)
deriving DecidableEq, Repr

structure KeyPath where
  root : String
  steps : List PathStep := []
deriving DecidableEq, Repr

inductive PathFault where
  | name
  | bracket
  | digit
  | size
deriving DecidableEq, Repr

def PathFault.message : PathFault → String
  | name => "IsA"
  | bracket => "Char"
  | digit => "Digit"
  | size => "Map on Result"

namespace KeyPath

def isNameChar (c : Char) : Bool :=
  c.isAlphanum || c = ' ' || c = '_' || c = '-'

def isBlank (c : Char) : Bool := c = ' ' || c = '\t'

def readName (cs : List Char) : Option (String × List Char) :=
  let name := cs.takeWhile isNameChar
  if name.isEmpty then none else some (String.ofList name, cs.dropWhile isNameChar)

def readPlace (cs : List Char) : Except PathFault (Int × List Char) :=
  let cs := cs.dropWhile isBlank
  let negative := cs.head? = some '-'
  let cs := if negative then cs.tail else cs
  let digits := cs.takeWhile Char.isDigit
  if digits.isEmpty then throw .digit
  else
    let n := Text.natOf 10 digits
    if (if negative then Nat.pow 2 63 else Nat.pow 2 63 - 1) < n then throw .size
    else
      match (cs.dropWhile Char.isDigit).dropWhile isBlank with
      | ']' :: rest => return (if negative then -(n : Int) else n, rest)
      | _ => throw .bracket

def readSteps : (fuel : Nat) → List Char → Except PathFault (List PathStep)
  | _, [] => return []
  | 0, _ => throw .bracket
  | fuel + 1, '.' :: cs =>
    match readName cs with
    | some (name, rest) => return .name name :: (← readSteps fuel rest)
    | none => throw .bracket
  | fuel + 1, '[' :: cs => do
    let (i, rest) ← readPlace cs
    return .place i :: (← readSteps fuel rest)
  | _ + 1, _ => throw .bracket

def parse (s : String) : Except PathFault KeyPath :=
  match readName s.toList with
  | some (root, rest) => return { root, steps := ← readSteps rest.length rest }
  | none => throw .name

end KeyPath

end DocStream.Config
