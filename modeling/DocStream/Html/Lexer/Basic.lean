import DocStream.Html.Reference

/-! The lexer: where it stands, and the tag that it is reading. A step takes it and the text
before it to a new lexer, the text that is left and the tokens found. -/

namespace DocStream.Html

/-- The tag and the attribute being read, and the letters that may turn out to be an end tag. Texts
that grow are kept backwards. -/
structure Lexer where
  state : State := .data
  isEnd : Bool := false
  name : List Char := []
  attributes : List Attribute := []
  attributeName : List Char := []
  attributeValue : List Char := []
  selfClosing : Bool := false
  buffer : List Char := []
  lastStart : String := ""

structure Step where
  lexer : Lexer
  rest : List Char
  tokens : List Token := []

def isTagSpace (c : Char) : Bool := c = '\t' || c = '\n' || c = '\x0c' || c = ' '

def smallLetter (c : Char) : Option Char :=
  if 'a' ≤ c && c ≤ 'z' then some c else if 'A' ≤ c && c ≤ 'Z' then some c.toLower else none

def backwards (cs : List Char) : String := String.ofList cs.reverse

def chars (cs : List Char) : List Token := cs.map .char

namespace Lexer

def enter (l : Lexer) (s : State) : Lexer := { l with state := s }

def saw (l : Lexer) (c : Char) : Token := .fault (.unexpectedChar c l.state)

def raw (l : Lexer) (k : RawKind) : Lexer := l.enter (.rawData k)

def dropTag (l : Lexer) : Lexer := { l with name := [], attributes := [], selfClosing := false }

def startTag (l : Lexer) (isEnd : Bool) (c : Char) : Lexer :=
  { l.dropTag with isEnd, name := [c] }

def finishAttribute (l : Lexer) : Lexer × List Token :=
  if l.attributeName.isEmpty then (l, [])
  else
    let name := backwards l.attributeName
    let cleared := { l with attributeName := [], attributeValue := [] }
    if l.attributes.any (·.name = name) then (cleared, [.fault .duplicateAttribute])
    else ({ cleared with attributes := ⟨name, backwards l.attributeValue⟩ :: l.attributes }, [])

def startAttribute (l : Lexer) (c : Char) : Lexer × List Token :=
  let (l, ts) := l.finishAttribute
  ({ l with attributeName := [c] }, ts)

def finishTag (l : Lexer) : Lexer × List Token :=
  let (l, ts) := l.finishAttribute
  let tag : Tag := ⟨backwards l.name, l.attributes.reverse, l.selfClosing⟩
  let next := { l with state := .data, name := [], attributes := [] }
  if l.isEnd then
    let faults :=
      (if tag.attributes.isEmpty then [] else [Token.fault .endTagAttributes]) ++
        if tag.selfClosing then [.fault .selfClosingEndTag] else []
    (next, ts ++ faults ++ [.endTag tag])
  else ({ next with lastStart := tag.name }, ts ++ [.startTag tag])

def isMatchingEnd (l : Lexer) : Bool := l.isEnd && backwards l.name = l.lastStart

end Lexer

def referenceInText (l : Lexer) (rest : List Char) : Step :=
  let r := resolve false rest
  let cs := if r.chars.isEmpty then ['&'] else r.chars
  ⟨l, r.rest, r.faults.map .fault ++ chars cs⟩

def referenceInValue (l : Lexer) (rest : List Char) : Step :=
  let r := resolve true rest
  let cs := if r.chars.isEmpty then ['&'] else r.chars
  ⟨{ l with attributeValue := cs.reverse ++ l.attributeValue }, r.rest, r.faults.map .fault⟩

end DocStream.Html
