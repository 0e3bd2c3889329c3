import DocStream.Binary64

/-! JSON values. A number is a whole number when it is written as one and fits a machine word, and
a double otherwise. -/

namespace DocStream

inductive JsonNumber where
  | integer (n : Int)
  | real (x : Binary64)
deriving DecidableEq, Repr

inductive Json where
  | null
  | bool (b : Bool)
  | number (n : JsonNumber)
  | string (s : String)
  | array (items : List Json)
  | object (members : List (String × Json))
deriving Inhabited

end DocStream
