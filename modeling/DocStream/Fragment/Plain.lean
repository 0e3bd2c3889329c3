import DocStream.Fragment
import DocStream.Text.Lines

/-! Plain text: no markup at all. The whole text is one paragraph of its lines, with a line break
between each two of them; an empty text is an empty fragment. -/

namespace DocStream.Fragment.Plain

def lineNodes (line : String) : Fragment := if line.isEmpty then [] else [.text line]

def joinLines : List String → Fragment
  | [] => []
  | [l] => lineNodes l
  | l :: ls => lineNodes l ++ .lineBreak :: joinLines ls

def read (text : String) : Fragment :=
  if text.isEmpty then [] else [.paragraph (joinLines (Text.lines text))]

def reader : FragmentReader := fun text => .ok (read text)

end DocStream.Fragment.Plain
