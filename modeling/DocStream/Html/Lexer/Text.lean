import DocStream.Html.Lexer.Basic

/-! Steps in text, and in the content of elements that hold text only, up to what may be their end
tag. -/

namespace DocStream.Html.Lexer

/-- Text in which references count or not; NUL stays NUL only between tags. -/
def stepText (l : Lexer) (c : Char) (rest : List Char) : Step :=
  match l.state, c with
  | .data, '\x00' => ⟨l, rest, [l.saw c, .char c]⟩
  | .data, '&' => referenceInText l rest
  | .data, '<' => ⟨l.enter .tagOpen, rest, []⟩
  | .rawData .rcdata, '&' => referenceInText l rest
  | .rawData (.scriptDataEscaped k), '-' =>
    ⟨l.enter (.scriptDataEscapedDash k), rest, [.char c]⟩
  | .rawData (.scriptDataEscaped .doubleEscaped), '<' =>
    ⟨l.enter (.rawLessThanSign (.scriptDataEscaped .doubleEscaped)), rest, [.char c]⟩
  | .rawData k, '<' => ⟨l.enter (.rawLessThanSign k), rest, []⟩
  | _, '\x00' => ⟨l, rest, [l.saw c, .char '\ufffd']⟩
  | _, _ => ⟨l, rest, [.char c]⟩

def stepRaw (l : Lexer) (c : Char) (rest : List Char) : Step :=
  let again := c :: rest
  match l.state with
  | .rawLessThanSign (.scriptDataEscaped .escaped) =>
    if c = '/' then
      ⟨{ l with buffer := [] }.enter (.rawEndTagOpen (.scriptDataEscaped .escaped)), rest, []⟩
    else
      match smallLetter c with
      | some s =>
        ⟨{ l with buffer := [s] }.enter (.scriptDataEscapeStart .doubleEscaped), rest,
          chars ['<', c]⟩
      | none => ⟨l.raw (.scriptDataEscaped .escaped), again, [.char '<']⟩
  | .rawLessThanSign (.scriptDataEscaped .doubleEscaped) =>
    if c = '/' then ⟨{ l with buffer := [] }.enter .scriptDataDoubleEscapeEnd, rest, [.char c]⟩
    else ⟨l.raw (.scriptDataEscaped .doubleEscaped), again, []⟩
  | .rawLessThanSign k =>
    if c = '/' then ⟨{ l with buffer := [] }.enter (.rawEndTagOpen k), rest, []⟩
    else if c = '!' && k = .scriptData then
      ⟨l.enter (.scriptDataEscapeStart .escaped), rest, chars ['<', '!']⟩
    else ⟨l.raw k, again, [.char '<']⟩
  | .rawEndTagOpen k =>
    match smallLetter c with
    | some s =>
      ⟨{ l.startTag true s with buffer := c :: l.buffer }.enter (.rawEndTagName k), rest, []⟩
    | none => ⟨l.raw k, again, chars ['<', '/']⟩
  | .rawEndTagName k =>
    if l.isMatchingEnd && isTagSpace c then
      ⟨{ l with buffer := [] }.enter .beforeAttributeName, rest, []⟩
    else if l.isMatchingEnd && c = '/' then
      ⟨{ l with buffer := [] }.enter .selfClosingStartTag, rest, []⟩
    else if l.isMatchingEnd && c = '>' then
      let (l, ts) := { l with buffer := [] }.finishTag
      ⟨l, rest, ts⟩
    else
      match smallLetter c with
      | some s => ⟨{ l with name := s :: l.name, buffer := c :: l.buffer }, rest, []⟩
      | none => ⟨l.dropTag.raw k, again, chars (['<', '/'] ++ l.buffer.reverse)⟩
  | .scriptDataEscapeStart .doubleEscaped =>
    if isTagSpace c || c = '/' || c = '>' then
      let k := if backwards l.buffer = "script" then EscapeKind.doubleEscaped else .escaped
      ⟨l.raw (.scriptDataEscaped k), rest, [.char c]⟩
    else
      match smallLetter c with
      | some s => ⟨{ l with buffer := s :: l.buffer }, rest, [.char c]⟩
      | none => ⟨l.raw (.scriptDataEscaped .escaped), again, []⟩
  | .scriptDataEscapeStart .escaped =>
    if c = '-' then ⟨l.enter .scriptDataEscapeStartDash, rest, [.char c]⟩
    else ⟨l.raw .scriptData, again, []⟩
  | .scriptDataEscapeStartDash =>
    if c = '-' then ⟨l.enter (.scriptDataEscapedDashDash .escaped), rest, [.char c]⟩
    else ⟨l.raw .scriptData, again, []⟩
  | .scriptDataEscapedDash k =>
    if c = '-' then ⟨l.enter (.scriptDataEscapedDashDash k), rest, [.char c]⟩
    else if c = '<' then
      ⟨l.enter (.rawLessThanSign (.scriptDataEscaped k)), rest,
        if k = .doubleEscaped then [.char c] else []⟩
    else if c = '\x00' then ⟨l.raw (.scriptDataEscaped k), rest, [l.saw c, .char '\ufffd']⟩
    else ⟨l.raw (.scriptDataEscaped k), rest, [.char c]⟩
  | .scriptDataEscapedDashDash k =>
    if c = '-' then ⟨l, rest, [.char c]⟩
    else if c = '<' then
      ⟨l.enter (.rawLessThanSign (.scriptDataEscaped k)), rest,
        if k = .doubleEscaped then [.char c] else []⟩
    else if c = '>' then ⟨l.raw .scriptData, rest, [.char c]⟩
    else if c = '\x00' then ⟨l.raw (.scriptDataEscaped k), rest, [l.saw c, .char '\ufffd']⟩
    else ⟨l.raw (.scriptDataEscaped k), rest, [.char c]⟩
  | _ =>
    if isTagSpace c || c = '/' || c = '>' then
      let k := if backwards l.buffer = "script" then EscapeKind.escaped else .doubleEscaped
      ⟨l.raw (.scriptDataEscaped k), rest, [.char c]⟩
    else
      match smallLetter c with
      | some s => ⟨{ l with buffer := s :: l.buffer }, rest, [.char c]⟩
      | none => ⟨l.raw (.scriptDataEscaped .doubleEscaped), again, []⟩

end DocStream.Html.Lexer
