import DocStream.Dictionary
import DocStream.Text.Quoted

/-! What a link points at: the kind of thing, its name, whether the source gave the kind, and the
decoration found on the link. -/

namespace DocStream

inductive ResourceKind where
  | url
  | path
  | mailto
  | document
  | unspecified
deriving DecidableEq, Repr, Inhabited

namespace ResourceKind

def label : ResourceKind → String
  | url => "url"
  | path => "path"
  | mailto => "mailto"
  | document => "doc"
  | unspecified => "unspecified"

def name : ResourceKind → String
  | document => "document"
  | k => k.label

end ResourceKind

structure Reference where
  kind : ResourceKind
  target : String
  typed : Bool := true
  parameters : Dictionary String := ∅
deriving DecidableEq, Inhabited

namespace Reference

def line (r : Reference) : String :=
  r.kind.label ++ ":" ++ r.target ++ (if r.typed then "" else " untyped") ++
    String.join (r.parameters.entries.map fun p => " " ++ p.1 ++ "=" ++ Text.quote p.2)

end Reference

end DocStream
