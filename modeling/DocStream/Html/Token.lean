import DocStream.Html.Dom
import DocStream.Html.Fault

/-! Tokens of HTML. A fault is a token too, so that it stands in order among the others. -/

namespace DocStream.Html

structure Tag where
  name : String
  attributes : List Attribute := []
  selfClosing : Bool := false
deriving DecidableEq, Repr, Inhabited

inductive Token where
  | startTag (tag : Tag)
  | endTag (tag : Tag)
  | char (c : Char)
  | comment
  | doctype
  | fault (fault : Fault)
  | finish
deriving DecidableEq, Repr

end DocStream.Html
