/-! White space as Unicode's White_Space property has it, the no-break space and the next-line
control included, and what is done with it: trimming, splitting into words, and writing each run of
it as one space. -/

namespace DocStream.Text

def isBlank (c : Char) : Bool :=
  let n := c.toNat
  (0x9 ≤ n && n ≤ 0xd) || n == 0x20 || n == 0x85 || n == 0xa0 || n == 0x1680 ||
    (0x2000 ≤ n && n ≤ 0x200a) || n == 0x2028 || n == 0x2029 || n == 0x202f || n == 0x205f ||
    n == 0x3000

def trimStart (s : String) : String := String.ofList (s.toList.dropWhile isBlank)

def trimEnd (s : String) : String :=
  String.ofList (s.toList.reverse.dropWhile isBlank).reverse

/-- A blank before another blank goes, and the last one of a run becomes a space. -/
def collapse : List Char → List Char
  | [] => []
  | c :: cs =>
    if isBlank c then if cs.head?.any isBlank then collapse cs else ' ' :: collapse cs
    else c :: collapse cs

def collapseBlanks (s : String) : String := String.ofList (collapse s.toList)

def splitRuns (sep : Char → Bool) : List Char → List (List Char)
  | [] => []
  | c :: cs =>
    if sep c then splitRuns sep cs
    else match splitRuns sep cs, cs.head?.any (fun d => !sep d) with
      | w :: ws, true => (c :: w) :: ws
      | ws, _ => [c] :: ws

def words (s : String) : List String := (splitRuns isBlank s.toList).map String.ofList

end DocStream.Text
