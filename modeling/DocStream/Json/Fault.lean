import DocStream.Json.Printer
import DocStream.Text.Quoted

/-! What can be wrong with a JSON text, and where: a fault lies at a number of bytes from the start,
which its message gives as a line and a column. -/

namespace DocStream.Json

inductive Found where
  | null
  | bool (b : Bool)
  | number (n : JsonNumber)
  | string (s : String)
  | sequence
  | map
deriving DecidableEq, Repr

def Found.describe : Found → String
  | null => "null"
  | bool b => "boolean `" ++ (if b then "true" else "false") ++ "`"
  | number (.integer n) => "integer `" ++ String.ofList (integerText n) ++ "`"
  | number (.real x) => "floating point `" ++ String.ofList (realText x) ++ "`"
  | string s => "string " ++ Text.quote s
  | sequence => "sequence"
  | map => "map"

inductive Cause where
  | endInList
  | endInObject
  | endInString
  | endInValue
  | colonExpected
  | listCommaExpected
  | objectCommaExpected
  | identExpected
  | valueExpected
  | keyNotString
  | badEscape
  | badNumber
  | numberOutOfRange
  | controlInString
  | loneSurrogate
  | unpairedSurrogate
  | trailingComma
  | trailingCharacters
  | tooDeep
  | wrongType (found : Found) (expected : String)
  | wrongValue (found : Found) (expected : String)
  | missingField (name : String)
  | duplicateField (name : String)
  | wrongLength (length : Nat) (expected : String)
deriving DecidableEq, Repr

def Cause.describe : Cause → String
  | endInList => "EOF while parsing a list"
  | endInObject => "EOF while parsing an object"
  | endInString => "EOF while parsing a string"
  | endInValue => "EOF while parsing a value"
  | colonExpected => "expected `:`"
  | listCommaExpected => "expected `,` or `]`"
  | objectCommaExpected => "expected `,` or `\x7d`"
  | identExpected => "expected ident"
  | valueExpected => "expected value"
  | keyNotString => "key must be a string"
  | badEscape => "invalid escape"
  | badNumber => "invalid number"
  | numberOutOfRange => "number out of range"
  | controlInString => "control character (\\u0000-\\u001F) found while parsing a string"
  | loneSurrogate => "lone leading surrogate in hex escape"
  | unpairedSurrogate => "unexpected end of hex escape"
  | trailingComma => "trailing comma"
  | trailingCharacters => "trailing characters"
  | tooDeep => "recursion limit exceeded"
  | wrongType found expected => "invalid type: " ++ found.describe ++ ", expected " ++ expected
  | wrongValue found expected => "invalid value: " ++ found.describe ++ ", expected " ++ expected
  | missingField name => "missing field `" ++ name ++ "`"
  | duplicateField name => "duplicate field `" ++ name ++ "`"
  | wrongLength n expected => "invalid length " ++ toString n ++ ", expected " ++ expected

structure Fault where
  cause : Cause
  offset : Nat
deriving DecidableEq, Repr

/-- Line from one and column in bytes of a place some bytes ahead in a text. -/
def position : (offset line column : Nat) → List Char → Nat × Nat
  | offset, line, column, [] => (line, column + offset)
  | offset, line, column, c :: cs =>
    if offset < c.utf8Size then (line, column + offset)
    else if c = '\n' then position (offset - 1) (line + 1) 0 cs
    else position (offset - c.utf8Size) line (column + c.utf8Size) cs

def Fault.message (f : Fault) (text : String) : String :=
  let (line, column) := position f.offset 1 0 text.toList
  f.cause.describe ++ " at line " ++ toString line ++ " column " ++ toString column

end DocStream.Json
