/-! The syntax a document was written in. It is a label only, carried by the first and the last
event of a stream; every dialect is translated alike. -/

namespace DocStream

inductive Dialect where
  | asciiDoc
  | asciidoctor
deriving DecidableEq, Repr, Inhabited

namespace Dialect

def all : List Dialect := [asciiDoc, asciidoctor]

def kind : Dialect → String
  | asciiDoc => "asciidoc"
  | asciidoctor => "asciidoctor"

def name : Dialect → String
  | asciiDoc => "AsciiDoc"
  | asciidoctor => "Asciidoctor"

def version : Dialect → String := fun _ => "1.0"

def id (d : Dialect) : String := d.kind ++ "/" ++ d.version

structure Unknown where
  text : String
deriving DecidableEq, Repr

def Unknown.message (u : Unknown) : String :=
  "unknown syntax '" ++ u.text ++ "' (expected one of: " ++ ", ".intercalate (all.map id) ++ ")"

def parse (s : String) : Except Unknown Dialect :=
  match all.find? (·.id == s) with
  | some d => .ok d
  | none => .error ⟨s⟩

end Dialect

end DocStream
