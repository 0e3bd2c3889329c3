import DocStream.Event.Json
import DocStream.Json.Printer

/-! A stream as output: a line for each event, or one indented JSON array. -/

namespace DocStream

inductive OutputFormat where
  | text
  | json
deriving DecidableEq, Repr, Inhabited

namespace OutputFormat

def name : OutputFormat → String
  | text => "text"
  | json => "json"

end OutputFormat

def render : OutputFormat → List Event → String
  | .text, es => String.join (es.map fun e => e.line ++ "\n")
  | .json, es => (Json.array (es.map Event.json)).pretty ++ "\n"

end DocStream
