import DocStream.Html.Lexer.Comment

/-! Steps in a document type, of which only the end and the faults matter. -/

namespace DocStream.Html.Lexer

/-- Document types, of which only the end and the faults matter. -/
def stepDoctype (l : Lexer) (c : Char) (rest : List Char) : Step :=
  let finished : Step := ⟨l.enter .data, rest, [.doctype]⟩
  let faulty : Step := ⟨l.enter .data, rest, [l.saw c, .doctype]⟩
  let bogus : Step := ⟨l.enter .bogusDoctype, rest, [l.saw c]⟩
  let quoted (k : IdKind) (fault : List Token) : Step :=
    if c = '"' then ⟨l.enter (.doctypeIdentifierDoubleQuoted k), rest, fault⟩
    else ⟨l.enter (.doctypeIdentifierSingleQuoted k), rest, fault⟩
  let isQuote := c = '"' || c = '\x27'
  match l.state with
  | .doctype =>
    if isTagSpace c then ⟨l.enter .beforeDoctypeName, rest, []⟩
    else ⟨l.enter .beforeDoctypeName, c :: rest, if c = '>' then [] else [l.saw c]⟩
  | .beforeDoctypeName =>
    if isTagSpace c then ⟨l, rest, []⟩
    else if c = '>' then faulty
    else ⟨l.enter .doctypeName, rest, if c = '\x00' then [l.saw c] else []⟩
  | .doctypeName =>
    if isTagSpace c then ⟨l.enter .afterDoctypeName, rest, []⟩
    else if c = '>' then finished
    else ⟨l, rest, if c = '\x00' then [l.saw c] else []⟩
  | .afterDoctypeName =>
    if beginsWith "public".toList (c :: rest) then
      ⟨l.enter (.afterDoctypeKeyword .publicId), rest.drop 5, []⟩
    else if beginsWith "system".toList (c :: rest) then
      ⟨l.enter (.afterDoctypeKeyword .systemId), rest.drop 5, []⟩
    else if isTagSpace c then ⟨l, rest, []⟩
    else if c = '>' then finished
    else bogus
  | .afterDoctypeKeyword k =>
    if isTagSpace c then ⟨l.enter (.beforeDoctypeIdentifier k), rest, []⟩
    else if isQuote then quoted k [l.saw c]
    else if c = '>' then faulty
    else bogus
  | .beforeDoctypeIdentifier k =>
    if isTagSpace c then ⟨l, rest, []⟩
    else if isQuote then quoted k []
    else if c = '>' then faulty
    else bogus
  | .doctypeIdentifierDoubleQuoted k =>
    if c = '"' then ⟨l.enter (.afterDoctypeIdentifier k), rest, []⟩
    else if c = '>' then faulty
    else ⟨l, rest, if c = '\x00' then [l.saw c] else []⟩
  | .doctypeIdentifierSingleQuoted k =>
    if c = '\x27' then ⟨l.enter (.afterDoctypeIdentifier k), rest, []⟩
    else if c = '>' then faulty
    else ⟨l, rest, if c = '\x00' then [l.saw c] else []⟩
  | .afterDoctypeIdentifier .publicId =>
    if isTagSpace c then ⟨l.enter .betweenDoctypeIdentifiers, rest, []⟩
    else if c = '>' then finished
    else if isQuote then quoted .systemId [l.saw c]
    else bogus
  | .afterDoctypeIdentifier .systemId =>
    if isTagSpace c then ⟨l, rest, []⟩ else if c = '>' then finished else bogus
  | .betweenDoctypeIdentifiers =>
    if isTagSpace c then ⟨l, rest, []⟩
    else if c = '>' then finished
    else if isQuote then quoted .systemId []
    else bogus
  | _ => if c = '>' then finished else ⟨l, rest, []⟩

end DocStream.Html.Lexer
