/-! The content of a parsed HTML body: elements by their local names, text, and the places of
comments. -/

namespace DocStream.Html

structure Attribute where
  name : String
  value : String
deriving DecidableEq, Repr

inductive Dom where
  | element (name : String) (attributes : List Attribute) (children : List Dom)
  | text (content : String)
  | comment
deriving Inhabited

end DocStream.Html
