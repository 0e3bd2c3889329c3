import DocStream.Config.Setting
import DocStream.Decimal.Shortest
import DocStream.Text.Quoted

/-! What can be wrong with a configuration. A value of a wrong type is reported with its key and the
file it came from; a section or a choice is reported by its own name only. What is wrong in a text
that is no TOML is for the reader of TOML to say. -/

namespace DocStream.Config

inductive Found where
  | scalar (value : Scalar)
  | list
  | table
deriving DecidableEq, Repr

/-- A text that is no TOML: what is said of it, and the file it comes from. -/
structure Malformed where
  report : String
  origin : Option String
deriving DecidableEq, Repr

inductive Fault where
  | badPath (fault : PathFault)
  | missingFile (name : String)
  | unreadableFile (reason : String)
  | malformedFile (fault : Malformed)
  | wrongType (found : Found) (expected key : String) (origin : Option String)
  | wrongSection (found : Scalar) (name : String)
  | shortSection (length count : Nat) (name : String)
  | missingKey (key : String)
  | unknownChoice (choice name : String)
  | noChoice (name : String)
deriving DecidableEq, Repr

def realText : Binary64.Extended → String
  | .finite x =>
    let (digits, lead) := (Decimal.shortest x).leadForm
    (if x.negative then "-" else "") ++ String.ofList (Decimal.positional digits lead 1)
  | .infinite negative => if negative then "-inf" else "inf"
  | .notANumber => "NaN"

def Scalar.describe (integer : String) : Scalar → String
  | nothing => "unit value"
  | bool b => "boolean `" ++ toString b ++ "`"
  | .integer n => integer ++ " `" ++ toString n ++ "`"
  | real x => "floating point `" ++ realText x ++ "`"
  | text s => "string " ++ Text.quote s

def Found.describe : Found → String
  | scalar v => v.describe "64-bit integer"
  | list => "sequence"
  | table => "map"

def inFile : Option String → String
  | some name => " in " ++ name
  | none => ""

def Fault.message : Fault → String
  | badPath f => f.message
  | missingFile name => "configuration file \"" ++ name ++ "\" not found"
  | unreadableFile reason => reason
  | malformedFile f => f.report ++ inFile f.origin
  | wrongType found expected key origin =>
    "invalid type: " ++ found.describe ++ ", expected " ++ expected ++ " for key `" ++ key ++ "`" ++
      inFile origin
  | wrongSection found name =>
    "invalid type: " ++ found.describe "integer" ++ ", expected struct " ++ name
  | shortSection length count name =>
    "invalid length " ++ toString length ++ ", expected struct " ++ name ++ " with " ++
      toString count ++ (if count = 1 then " element" else " elements")
  | missingKey key => "missing field `" ++ key ++ "`"
  | unknownChoice choice name =>
    "enum " ++ name ++ " does not have variant constructor " ++ choice
  | noChoice name =>
    "value of enum " ++ name ++
      " should be represented by either string or table with exactly one key"

end DocStream.Config
