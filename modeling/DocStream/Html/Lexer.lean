import DocStream.Html.Lexer.Doctype
import DocStream.Html.Lexer.Tag
import DocStream.Html.Lexer.Text

/-! Reading tokens, one step at a time. Of the tokens of a step at most the last is a tag, and
whoever runs the steps may change the state after it, since the content of some elements is not
markup. -/

namespace DocStream.Html.Lexer

def step (l : Lexer) (inForeign : Bool) (c : Char) (rest : List Char) : Step :=
  match l.state with
  | .data | .plaintext | .rawData _ => l.stepText c rest
  | .rawLessThanSign _ | .rawEndTagOpen _ | .rawEndTagName _ | .scriptDataEscapeStart _
  | .scriptDataEscapeStartDash | .scriptDataEscapedDash _ | .scriptDataEscapedDashDash _
  | .scriptDataDoubleEscapeEnd => l.stepRaw c rest
  | .tagOpen | .endTagOpen | .tagName | .beforeAttributeName | .attributeName
  | .afterAttributeName | .beforeAttributeValue | .attributeValue _ | .afterAttributeValueQuoted
  | .selfClosingStartTag => l.stepTag c rest
  | .markupDeclarationOpen => l.stepDeclaration inForeign (c :: rest)
  | .bogusComment | .commentStart | .commentStartDash | .comment | .commentLessThanSign
  | .commentLessThanSignBang | .commentLessThanSignBangDash | .commentLessThanSignBangDashDash
  | .commentEndDash | .commentEnd | .commentEndBang => l.stepComment c rest
  | .cdataSection | .cdataSectionBracket | .cdataSectionEnd => l.stepCdata c rest
  | _ => l.stepDoctype c rest

/-- What the end of the text leaves behind. A tag that is not finished is dropped. -/
def finish (l : Lexer) : List Token :=
  let fault (s : State) : Token := .fault (.unexpectedEnd s)
  let found : List Token :=
    match l.state with
    | .data | .plaintext | .rawData .rcdata | .rawData .rawtext | .rawData .scriptData => []
    | .rawData (.scriptDataEscaped k) => [fault (.rawData (.scriptDataEscaped k))]
    | .rawLessThanSign (.scriptDataEscaped .doubleEscaped) | .scriptDataDoubleEscapeEnd =>
      [fault (.rawData (.scriptDataEscaped .doubleEscaped))]
    | .rawLessThanSign k => .char '<' :: endInside k
    | .rawEndTagOpen k => chars ['<', '/'] ++ endInside k
    | .rawEndTagName k => chars (['<', '/'] ++ l.buffer.reverse) ++ endInside k
    | .scriptDataEscapeStart k => [fault (.rawData (.scriptDataEscaped k))]
    | .scriptDataEscapeStartDash => []
    | .tagOpen => [fault l.state, .char '<']
    | .endTagOpen => fault l.state :: chars ['<', '/']
    | .beforeAttributeValue => [fault (.attributeValue .unquoted)]
    | .bogusComment => [.comment]
    | .markupDeclarationOpen => [l.saw '!', .comment]
    | .commentLessThanSign | .commentLessThanSignBang => [fault .comment, .comment]
    | .commentLessThanSignBangDash => [fault .commentEndDash, .comment]
    | .commentLessThanSignBangDashDash => [fault .commentEnd, .comment]
    | .commentStart | .commentStartDash | .comment | .commentEndDash | .commentEnd
    | .commentEndBang => [fault l.state, .comment]
    | .bogusDoctype => [.doctype]
    | .doctype | .beforeDoctypeName | .doctypeName | .afterDoctypeName | .afterDoctypeKeyword _
    | .beforeDoctypeIdentifier _ | .doctypeIdentifierDoubleQuoted _
    | .doctypeIdentifierSingleQuoted _ | .afterDoctypeIdentifier _
    | .betweenDoctypeIdentifiers => [fault l.state, .doctype]
    | .cdataSection => [fault .cdataSection]
    | .cdataSectionBracket => [.char ']', fault .cdataSection]
    | .cdataSectionEnd => chars [']', ']'] ++ [fault .cdataSection]
    | s => [fault s]
  found ++ [.finish]
where
  endInside : RawKind → List Token
    | .scriptDataEscaped k => [.fault (.unexpectedEnd (.rawData (.scriptDataEscaped k)))]
    | _ => []

end DocStream.Html.Lexer
