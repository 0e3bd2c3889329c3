/-! The lines of a text. A line ends at a line feed, which takes a carriage return right before it
along; what follows the last line feed is a line only when it is not empty. -/

namespace DocStream.Text

/-- Splits after each line feed; a last piece without one is kept unless it is empty. -/
def pieces : List Char → List (List Char)
  | [] => []
  | '\n' :: cs => ['\n'] :: pieces cs
  | c :: cs =>
    match pieces cs with
    | [] => [[c]]
    | p :: ps => (c :: p) :: ps

def bare : List Char → List Char
  | ['\n'] => []
  | ['\r', '\n'] => []
  | c :: cs => c :: bare cs
  | [] => []

def lines (s : String) : List String := (pieces s.toList).map fun p => String.ofList (bare p)

end DocStream.Text
