/-! The states in which the tokens of HTML are read, named as in the HTML standard. -/

namespace DocStream.Html

inductive EscapeKind where
  | escaped
  | doubleEscaped
deriving DecidableEq, Repr

def EscapeKind.name : EscapeKind → String
  | escaped => "Escaped"
  | doubleEscaped => "DoubleEscaped"

inductive RawKind where
  | rcdata
  | rawtext
  | scriptData
  | scriptDataEscaped (kind : EscapeKind)
deriving DecidableEq, Repr

def RawKind.name : RawKind → String
  | rcdata => "Rcdata"
  | rawtext => "Rawtext"
  | scriptData => "ScriptData"
  | scriptDataEscaped k => "ScriptDataEscaped(" ++ k.name ++ ")"

inductive QuoteKind where
  | unquoted
  | singleQuoted
  | doubleQuoted
deriving DecidableEq, Repr

def QuoteKind.name : QuoteKind → String
  | unquoted => "Unquoted"
  | singleQuoted => "SingleQuoted"
  | doubleQuoted => "DoubleQuoted"

inductive IdKind where
  | publicId
  | systemId
deriving DecidableEq, Repr

def IdKind.name : IdKind → String
  | publicId => "Public"
  | systemId => "System"

inductive State where
  | data
  | plaintext
  | rawData (kind : RawKind)
  | rawLessThanSign (kind : RawKind)
  | rawEndTagOpen (kind : RawKind)
  | rawEndTagName (kind : RawKind)
  | scriptDataEscapeStart (kind : EscapeKind)
  | scriptDataEscapeStartDash
  | scriptDataEscapedDash (kind : EscapeKind)
  | scriptDataEscapedDashDash (kind : EscapeKind)
  | scriptDataDoubleEscapeEnd
  | tagOpen
  | endTagOpen
  | tagName
  | beforeAttributeName
  | attributeName
  | afterAttributeName
  | beforeAttributeValue
  | attributeValue (kind : QuoteKind)
  | afterAttributeValueQuoted
  | selfClosingStartTag
  | bogusComment
  | markupDeclarationOpen
  | commentStart
  | commentStartDash
  | comment
  | commentLessThanSign
  | commentLessThanSignBang
  | commentLessThanSignBangDash
  | commentLessThanSignBangDashDash
  | commentEndDash
  | commentEnd
  | commentEndBang
  | doctype
  | beforeDoctypeName
  | doctypeName
  | afterDoctypeName
  | afterDoctypeKeyword (kind : IdKind)
  | beforeDoctypeIdentifier (kind : IdKind)
  | doctypeIdentifierDoubleQuoted (kind : IdKind)
  | doctypeIdentifierSingleQuoted (kind : IdKind)
  | afterDoctypeIdentifier (kind : IdKind)
  | betweenDoctypeIdentifiers
  | bogusDoctype
  | cdataSection
  | cdataSectionBracket
  | cdataSectionEnd
deriving DecidableEq, Repr

namespace State

def name : State → String
  | data => "Data"
  | plaintext => "Plaintext"
  | rawData k => "RawData(" ++ k.name ++ ")"
  | rawLessThanSign k => "RawLessThanSign(" ++ k.name ++ ")"
  | rawEndTagOpen k => "RawEndTagOpen(" ++ k.name ++ ")"
  | rawEndTagName k => "RawEndTagName(" ++ k.name ++ ")"
  | scriptDataEscapeStart k => "ScriptDataEscapeStart(" ++ k.name ++ ")"
  | scriptDataEscapeStartDash => "ScriptDataEscapeStartDash"
  | scriptDataEscapedDash k => "ScriptDataEscapedDash(" ++ k.name ++ ")"
  | scriptDataEscapedDashDash k => "ScriptDataEscapedDashDash(" ++ k.name ++ ")"
  | scriptDataDoubleEscapeEnd => "ScriptDataDoubleEscapeEnd"
  | tagOpen => "TagOpen"
  | endTagOpen => "EndTagOpen"
  | tagName => "TagName"
  | beforeAttributeName => "BeforeAttributeName"
  | attributeName => "AttributeName"
  | afterAttributeName => "AfterAttributeName"
  | beforeAttributeValue => "BeforeAttributeValue"
  | attributeValue k => "AttributeValue(" ++ k.name ++ ")"
  | afterAttributeValueQuoted => "AfterAttributeValueQuoted"
  | selfClosingStartTag => "SelfClosingStartTag"
  | bogusComment => "BogusComment"
  | markupDeclarationOpen => "MarkupDeclarationOpen"
  | commentStart => "CommentStart"
  | commentStartDash => "CommentStartDash"
  | comment => "Comment"
  | commentLessThanSign => "CommentLessThanSign"
  | commentLessThanSignBang => "CommentLessThanSignBang"
  | commentLessThanSignBangDash => "CommentLessThanSignBangDash"
  | commentLessThanSignBangDashDash => "CommentLessThanSignBangDashDash"
  | commentEndDash => "CommentEndDash"
  | commentEnd => "CommentEnd"
  | commentEndBang => "CommentEndBang"
  | doctype => "Doctype"
  | beforeDoctypeName => "BeforeDoctypeName"
  | doctypeName => "DoctypeName"
  | afterDoctypeName => "AfterDoctypeName"
  | afterDoctypeKeyword k => "AfterDoctypeKeyword(" ++ k.name ++ ")"
  | beforeDoctypeIdentifier k => "BeforeDoctypeIdentifier(" ++ k.name ++ ")"
  | doctypeIdentifierDoubleQuoted k => "DoctypeIdentifierDoubleQuoted(" ++ k.name ++ ")"
  | doctypeIdentifierSingleQuoted k => "DoctypeIdentifierSingleQuoted(" ++ k.name ++ ")"
  | afterDoctypeIdentifier k => "AfterDoctypeIdentifier(" ++ k.name ++ ")"
  | betweenDoctypeIdentifiers => "BetweenDoctypePublicAndSystemIdentifiers"
  | bogusDoctype => "BogusDoctype"
  | cdataSection => "CdataSection"
  | cdataSectionBracket => "CdataSectionBracket"
  | cdataSectionEnd => "CdataSectionEnd"

end State

end DocStream.Html
