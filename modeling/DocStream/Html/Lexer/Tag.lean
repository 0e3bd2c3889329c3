import DocStream.Html.Lexer.Basic

/-! Steps inside a tag. Of attributes with one name the first is kept. -/

namespace DocStream.Html.Lexer

def attributeStart (l : Lexer) (c : Char) (odd : Bool) (rest : List Char) : Step :=
  let fault := if odd then [l.saw c] else []
  let (l, ts) := l.startAttribute (if c = '\x00' then '\ufffd' else (smallLetter c).getD c)
  ⟨l.enter .attributeName, rest, fault ++ ts⟩

def endOfTag (l : Lexer) (rest : List Char) : Step :=
  let (l, ts) := l.finishTag
  ⟨l, rest, ts⟩

def stepTag (l : Lexer) (c : Char) (rest : List Char) : Step :=
  match l.state with
  | .tagOpen =>
    if c = '!' then ⟨l.enter .markupDeclarationOpen, rest, []⟩
    else if c = '/' then ⟨l.enter .endTagOpen, rest, []⟩
    else if c = '?' then ⟨l.enter .bogusComment, c :: rest, [l.saw c]⟩
    else
      match smallLetter c with
      | some s => ⟨(l.startTag false s).enter .tagName, rest, []⟩
      | none => ⟨l.enter .data, c :: rest, [l.saw c, .char '<']⟩
  | .endTagOpen =>
    if c = '>' then ⟨l.enter .data, rest, [l.saw c]⟩
    else
      match smallLetter c with
      | some s => ⟨(l.startTag true s).enter .tagName, rest, []⟩
      | none => ⟨l.enter .bogusComment, c :: rest, [l.saw c]⟩
  | .tagName =>
    if isTagSpace c then ⟨l.enter .beforeAttributeName, rest, []⟩
    else if c = '/' then ⟨l.enter .selfClosingStartTag, rest, []⟩
    else if c = '>' then l.endOfTag rest
    else if c = '\x00' then ⟨{ l with name := '\ufffd' :: l.name }, rest, [l.saw c]⟩
    else ⟨{ l with name := (smallLetter c).getD c :: l.name }, rest, []⟩
  | .beforeAttributeName =>
    if isTagSpace c then ⟨l, rest, []⟩
    else if c = '/' then ⟨l.enter .selfClosingStartTag, rest, []⟩
    else if c = '>' then l.endOfTag rest
    else
      l.attributeStart c (c = '\x00' || c = '"' || c = '\x27' || c = '<' || c = '=') rest
  | .attributeName =>
    if isTagSpace c then ⟨l.enter .afterAttributeName, rest, []⟩
    else if c = '/' then ⟨l.enter .selfClosingStartTag, rest, []⟩
    else if c = '=' then ⟨l.enter .beforeAttributeValue, rest, []⟩
    else if c = '>' then l.endOfTag rest
    else
      let x := if c = '\x00' then '\ufffd' else (smallLetter c).getD c
      let odd := c = '\x00' || c = '"' || c = '\x27' || c = '<'
      ⟨{ l with attributeName := x :: l.attributeName }, rest, if odd then [l.saw c] else []⟩
  | .afterAttributeName =>
    if isTagSpace c then ⟨l, rest, []⟩
    else if c = '/' then ⟨l.enter .selfClosingStartTag, rest, []⟩
    else if c = '=' then ⟨l.enter .beforeAttributeValue, rest, []⟩
    else if c = '>' then l.endOfTag rest
    else l.attributeStart c (c = '\x00' || c = '"' || c = '\x27' || c = '<') rest
  | .beforeAttributeValue =>
    if isTagSpace c then ⟨l, rest, []⟩
    else if c = '"' then ⟨l.enter (.attributeValue .doubleQuoted), rest, []⟩
    else if c = '\x27' then ⟨l.enter (.attributeValue .singleQuoted), rest, []⟩
    else if c = '>' then
      let (l', ts) := l.finishTag
      ⟨l', rest, l.saw '=' :: ts⟩
    else ⟨l.enter (.attributeValue .unquoted), c :: rest, []⟩
  | .attributeValue .unquoted =>
    if isTagSpace c then ⟨l.enter .beforeAttributeName, rest, []⟩
    else if c = '&' then referenceInValue l rest
    else if c = '>' then l.endOfTag rest
    else if c = '\x00' then
      ⟨{ l with attributeValue := '\ufffd' :: l.attributeValue }, rest, [l.saw c]⟩
    else ⟨{ l with attributeValue := c :: l.attributeValue }, rest, []⟩
  | .attributeValue k =>
    let mark := if k = .doubleQuoted then '"' else '\x27'
    if c = mark then ⟨l.enter .afterAttributeValueQuoted, rest, []⟩
    else if c = '&' then referenceInValue l rest
    else if c = '\x00' then
      ⟨{ l with attributeValue := '\ufffd' :: l.attributeValue }, rest, [l.saw c]⟩
    else ⟨{ l with attributeValue := c :: l.attributeValue }, rest, []⟩
  | .afterAttributeValueQuoted =>
    if isTagSpace c then ⟨l.enter .beforeAttributeName, rest, []⟩
    else if c = '/' then ⟨l.enter .selfClosingStartTag, rest, []⟩
    else if c = '>' then l.endOfTag rest
    else ⟨l.enter .beforeAttributeName, c :: rest, [l.saw c]⟩
  | _ =>
    if c = '>' then { l with selfClosing := true }.endOfTag rest
    else ⟨l.enter .beforeAttributeName, c :: rest, [l.saw c]⟩

end DocStream.Html.Lexer
