import DocStream.Html.Lexer.Basic

/-! Steps in comments, in what is made a comment for want of a better reading, and in sections of
plain characters. -/

namespace DocStream.Html.Lexer

def beginsWith (word : List Char) (cs : List Char) : Bool :=
  word.isPrefixOf ((cs.take word.length).map fun c => (smallLetter c).getD c)

def stepComment (l : Lexer) (c : Char) (rest : List Char) : Step :=
  let nul := if c = '\x00' then [l.saw c] else []
  match l.state with
  | .bogusComment => if c = '>' then ⟨l.enter .data, rest, [.comment]⟩ else ⟨l, rest, []⟩
  | .commentStart =>
    if c = '-' then ⟨l.enter .commentStartDash, rest, []⟩
    else if c = '>' then ⟨l.enter .data, rest, [l.saw c, .comment]⟩
    else ⟨l.enter .comment, rest, nul⟩
  | .commentStartDash =>
    if c = '-' then ⟨l.enter .commentEnd, rest, []⟩
    else if c = '>' then ⟨l.enter .data, rest, [l.saw c, .comment]⟩
    else ⟨l.enter .comment, rest, nul⟩
  | .comment =>
    if c = '<' then ⟨l.enter .commentLessThanSign, rest, []⟩
    else if c = '-' then ⟨l.enter .commentEndDash, rest, []⟩
    else ⟨l, rest, nul⟩
  | .commentLessThanSign =>
    if c = '!' then ⟨l.enter .commentLessThanSignBang, rest, []⟩
    else if c = '<' then ⟨l, rest, []⟩
    else ⟨l.enter .comment, c :: rest, []⟩
  | .commentLessThanSignBang =>
    if c = '-' then ⟨l.enter .commentLessThanSignBangDash, rest, []⟩
    else ⟨l.enter .comment, c :: rest, []⟩
  | .commentLessThanSignBangDash =>
    if c = '-' then ⟨l.enter .commentLessThanSignBangDashDash, rest, []⟩
    else ⟨l.enter .commentEndDash, c :: rest, []⟩
  | .commentLessThanSignBangDashDash =>
    ⟨l.enter .commentEnd, c :: rest, if c = '>' then [] else [l.saw c]⟩
  | .commentEndDash =>
    if c = '-' then ⟨l.enter .commentEnd, rest, []⟩ else ⟨l.enter .comment, rest, nul⟩
  | .commentEnd =>
    if c = '>' then ⟨l.enter .data, rest, [.comment]⟩
    else if c = '!' then ⟨l.enter .commentEndBang, rest, []⟩
    else if c = '-' then ⟨l, rest, []⟩
    else ⟨l.enter .comment, c :: rest, []⟩
  | _ =>
    if c = '-' then ⟨l.enter .commentEndDash, rest, []⟩
    else if c = '>' then ⟨l.enter .data, rest, [l.saw c, .comment]⟩
    else ⟨l.enter .comment, rest, nul⟩

def stepDeclaration (l : Lexer) (inForeign : Bool) (cs : List Char) : Step :=
  if ['-', '-'].isPrefixOf cs then ⟨l.enter .commentStart, cs.drop 2, []⟩
  else if beginsWith "doctype".toList cs then ⟨l.enter .doctype, cs.drop 7, []⟩
  else if inForeign && "[CDATA[".toList.isPrefixOf cs then ⟨l.enter .cdataSection, cs.drop 7, []⟩
  else ⟨l.enter .bogusComment, cs, [l.saw '!']⟩

def stepCdata (l : Lexer) (c : Char) (rest : List Char) : Step :=
  match l.state with
  | .cdataSection =>
    if c = ']' then ⟨l.enter .cdataSectionBracket, rest, []⟩ else ⟨l, rest, [.char c]⟩
  | .cdataSectionBracket =>
    if c = ']' then ⟨l.enter .cdataSectionEnd, rest, []⟩
    else ⟨l.enter .cdataSection, c :: rest, [.char ']']⟩
  | _ =>
    if c = ']' then ⟨l, rest, [.char c]⟩
    else if c = '>' then ⟨l.enter .data, rest, []⟩
    else ⟨l.enter .cdataSection, c :: rest, chars [']', ']']⟩

end DocStream.Html.Lexer
