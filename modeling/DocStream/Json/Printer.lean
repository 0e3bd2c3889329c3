import DocStream.Decimal.Shortest
import DocStream.Json.Value

/-! JSON text, compact or indented by two spaces a level. In strings only the quotation mark, the
backslash and the controls below the space are escaped. -/

namespace DocStream.Json

def hexDigit (n : Nat) : Char := Nat.digitChar (n % 16)

def escape (c : Char) : List Char :=
  match c with
  | '"' => ['\\', '"']
  | '\\' => ['\\', '\\']
  | '\x08' => ['\\', 'b']
  | '\x0c' => ['\\', 'f']
  | '\n' => ['\\', 'n']
  | '\r' => ['\\', 'r']
  | '\t' => ['\\', 't']
  | c =>
    if c.toNat < 0x20 then ['\\', 'u', '0', '0', hexDigit (c.toNat / 16), hexDigit c.toNat]
    else [c]

def stringText (s : String) : List Char := '"' :: s.toList.flatMap escape ++ ['"']

/-- Positional from `0.00001` to below `1e+16`, always with a fraction; scientific elsewhere. -/
def realText (x : Binary64) : List Char :=
  let (digits, lead) := (Decimal.shortest x).leadForm
  (if x.negative then ['-'] else []) ++
    if -5 ≤ lead && lead < 16 then Decimal.positional digits lead 1
    else Decimal.scientific digits lead

def integerText (n : Int) : List Char :=
  if n < 0 then '-' :: Nat.toDigits 10 n.natAbs else Nat.toDigits 10 n.natAbs

def numberText : JsonNumber → List Char
  | .integer n => integerText n
  | .real x => realText x

mutual

def compactChars : Json → List Char
  | .null => "null".toList
  | .bool true => "true".toList
  | .bool false => "false".toList
  | .number n => numberText n
  | .string s => stringText s
  | .array items => '[' :: compactItems items ++ [']']
  | .object members => '\x7b' :: compactMembers members ++ ['\x7d']

def compactItems : List Json → List Char
  | [] => []
  | [v] => compactChars v
  | v :: vs => compactChars v ++ ',' :: compactItems vs

def compactMembers : List (String × Json) → List Char
  | [] => []
  | [(k, v)] => stringText k ++ ':' :: compactChars v
  | (k, v) :: ms => stringText k ++ ':' :: compactChars v ++ ',' :: compactMembers ms

end

def compact (v : Json) : String := String.ofList (compactChars v)

def newline (depth : Nat) : List Char := '\n' :: List.replicate (2 * depth) ' '

mutual

def prettyChars (depth : Nat) : Json → List Char
  | .null => "null".toList
  | .bool true => "true".toList
  | .bool false => "false".toList
  | .number n => numberText n
  | .string s => stringText s
  | .array [] => ['[', ']']
  | .array (v :: vs) => '[' :: prettyItems (depth + 1) (v :: vs) ++ newline depth ++ [']']
  | .object [] => ['\x7b', '\x7d']
  | .object (m :: ms) =>
    '\x7b' :: prettyMembers (depth + 1) (m :: ms) ++ newline depth ++ ['\x7d']

def prettyItems (depth : Nat) : List Json → List Char
  | [] => []
  | [v] => newline depth ++ prettyChars depth v
  | v :: vs => newline depth ++ prettyChars depth v ++ ',' :: prettyItems depth vs

def prettyMembers (depth : Nat) : List (String × Json) → List Char
  | [] => []
  | [(k, v)] => newline depth ++ stringText k ++ ':' :: ' ' :: prettyChars depth v
  | (k, v) :: ms =>
    newline depth ++ stringText k ++ ':' :: ' ' :: prettyChars depth v ++
      ',' :: prettyMembers depth ms

end

def pretty (v : Json) : String := String.ofList (prettyChars 0 v)

end DocStream.Json
