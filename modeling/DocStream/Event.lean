import DocStream.Dialect
import DocStream.Reference

/-! Render events: a document as a flat stream in which every container is opened by one event and
closed by another, with text and line breaks between. A closing event closes an opening one exactly
when both name the same container, parameters included. -/

namespace DocStream

inductive ListKind where
  | ordered
  | unordered
deriving DecidableEq, Repr, Inhabited

namespace ListKind

def name : ListKind → String
  | ordered => "ordered"
  | unordered => "unordered"

def ofContext (context : String) : ListKind :=
  if context = "olist" then ordered else unordered

end ListKind

inductive Style where
  | bold
  | italic
  | monospace
  | superscript
  | subscript
  | underlined
  | strikedout
deriving DecidableEq, Repr, Inhabited

namespace Style

def name : Style → String
  | bold => "bold"
  | italic => "italic"
  | monospace => "monospace"
  | superscript => "superscript"
  | subscript => "subscript"
  | underlined => "underlined"
  | strikedout => "strikedout"

end Style

/-- A link without its label. It is free-standing when the source wrote its address alone. -/
structure LinkHead where
  reference : Reference
  freeStanding : Bool := false
deriving DecidableEq, Inhabited

inductive Container where
  | document (dialect : Dialect)
  | sect
  | header (level : Nat) (id : Option String)
  | list (kind : ListKind)
  | listItem
  | paragraph
  | format (style : Style)
  | link (head : LinkHead)
deriving DecidableEq, Inhabited

namespace Container

def name : Container → String
  | document _ => "Document"
  | sect => "Section"
  | header .. => "Header"
  | list _ => "List"
  | listItem => "ListItem"
  | paragraph => "Paragraph"
  | format _ => "Format"
  | link _ => "Link"

def details : Container → String
  | document d => " [syntax=" ++ d.id ++ "]"
  | header level none => " [level=" ++ toString level ++ "]"
  | header level (some id) => " [level=" ++ toString level ++ ", id=" ++ id ++ "]"
  | list k => " [" ++ k.name ++ "]"
  | format s => " [" ++ s.name ++ "]"
  | link l => " [" ++ l.reference.line ++ "]" ++ if l.freeStanding then " free-standing" else ""
  | _ => ""

end Container

inductive Event where
  | opening (container : Container)
  | closing (container : Container)
  | text (content : String)
  | lineBreak
deriving DecidableEq, Inhabited

namespace Event

def isOpening : Event → Bool
  | opening _ => true
  | _ => false

def isClosing : Event → Bool
  | closing _ => true
  | _ => false

def closes : (closer opener : Event) → Bool
  | closing c, opening o => o == c
  | _, _ => false

def name : Event → String
  | opening c => "Begin" ++ c.name
  | closing c => "End" ++ c.name
  | text _ => "RawText"
  | lineBreak => "NewLine"

def line (e : Event) : String :=
  e.name ++ match e with
    | opening c => c.details
    | closing c => c.details
    | text s => " " ++ Text.quote s
    | lineBreak => ""

end Event

end DocStream
