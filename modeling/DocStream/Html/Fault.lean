import DocStream.Html.State

/-! The faults that reading tokens and building the tree report, each with its wording. -/

namespace DocStream.Html

inductive Fault where
  | unexpectedChar (c : Char) (state : State)
  | unexpectedEnd (state : State)
  | duplicateAttribute
  | endTagAttributes
  | selfClosingEndTag
  | unknownReference
  | referenceWithoutSemicolon
  | numberWithoutSemicolon
  | numberWithoutDigits
  | invalidNumber
  | unexpectedToken
  | unexpectedOpenElement
  | unacknowledgedSelfClosing
  | doctypeInBody
  | openAtBodyEnd
  | bodyEndOutOfScope
  | documentEndOutOfScope
  | noParagraph
  | noListItem
  | noHeading
  | wrongHeading
  | nestedHeadings
  | nestedForms
  | noForm
  | formOutOfScope
  | formNotCurrent
  | nestedButtons
  | nestedNobr
  | specialBetween
  | formattingNotOpen
  | formattingOutOfScope
  | formattingNotCurrent
  | textInTable
  | charactersInTable
  | cellNotCurrent
deriving DecidableEq, Repr

def Fault.message : Fault → String
  | unexpectedChar c s => "Saw " ++ c.toString ++ " in state " ++ s.name
  | unexpectedEnd s => "Saw EOF in state " ++ s.name
  | duplicateAttribute => "Duplicate attribute"
  | endTagAttributes => "Attributes on an end tag"
  | selfClosingEndTag => "Self-closing end tag"
  | unknownReference => "Invalid character reference"
  | referenceWithoutSemicolon => "Character reference does not end with semicolon"
  | numberWithoutSemicolon => "Semicolon missing after numeric character reference"
  | numberWithoutDigits => "Numeric character reference without digits"
  | invalidNumber => "Invalid numeric character reference"
  | unexpectedToken => "Unexpected token"
  | unexpectedOpenElement => "Unexpected open element"
  | unacknowledgedSelfClosing => "Unacknowledged self-closing tag"
  | doctypeInBody => "DOCTYPE in body"
  | openAtBodyEnd => "Unexpected open tag at end of body"
  | bodyEndOutOfScope => "</body> with no <body> in scope"
  | documentEndOutOfScope => "</html> with no <body> in scope"
  | noParagraph => "No <p> tag to close"
  | noListItem => "No matching tag to close"
  | noHeading => "No heading tag to close"
  | wrongHeading => "Closing wrong heading tag"
  | nestedHeadings => "nested heading tags"
  | nestedForms => "nested forms"
  | noForm => "Null form element pointer on </form>"
  | formOutOfScope => "Form element not in scope on </form>"
  | formNotCurrent => "Bad open element on </form>"
  | nestedButtons => "nested buttons"
  | nestedNobr => "Nested <nobr>"
  | specialBetween => "Found special tag while closing generic tag"
  | formattingNotOpen => "Formatting element not open"
  | formattingOutOfScope => "Formatting element not in scope"
  | formattingNotCurrent => "Formatting element not current node"
  | textInTable => "Non-space table text"
  | charactersInTable => "Unexpected characters in table"
  | cellNotCurrent => "expected to close <td> or <th> with cell"

end DocStream.Html
