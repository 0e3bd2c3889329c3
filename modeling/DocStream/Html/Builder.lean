import DocStream.Html.Token

/-! The tree under construction: nodes in a store, each knowing its parent and its children, the
stack of open elements, and the list of formatting elements that are to be opened again wherever
the markup closes them out of order. -/

namespace DocStream.Html

inductive Namespace where
  | html
  | mathml
  | svg
deriving DecidableEq, Repr

structure ElementName where
  space : Namespace
  localName : String
deriving DecidableEq, Repr

inductive Content where
  | element (name : ElementName) (attributes : List Attribute) (contents : Option Nat)
      (holdsHtml : Bool)
  | text (content : String)
  | comment
  | fragment

structure Node where
  parent : Option Nat := none
  content : Content
  children : Array Nat := #[]

instance : Inhabited Node := ⟨{ content := .fragment }⟩

inductive Mode where
  | inBody
  | text
  | inTable
  | inTableText
  | inCaption
  | inColumnGroup
  | inTableBody
  | inRow
  | inCell
  | inSelect
  | inSelectInTable
  | inTemplate
  | afterBody
  | afterAfterBody
deriving DecidableEq, Repr, Inhabited

/-- A formatting element and the tag it was made from, or the edge of a region whose formatting is
its own. -/
inductive FormattingEntry where
  | marker
  | element (node : Nat) (tag : Tag)

/-- The innermost open element and the latest formatting entry come first, as does the latest
fault. -/
structure Builder where
  nodes : Array Node
  opened : List Nat
  formatting : List FormattingEntry := []
  mode : Mode := .inBody
  returnMode : Mode := .inBody
  templateModes : List Mode := []
  form : Option Nat := none
  fosterParenting : Bool := false
  skipNewline : Bool := false
  tableText : List Char := []
  faults : List Fault := []

abbrev Build := StateM Builder

namespace Builder

def rootNode : Nat := 0

def bodyNode : Nat := 1

def initial : Builder where
  nodes :=
    #[{ content := .element ⟨.html, "html"⟩ [] none false, children := #[bodyNode] },
      { parent := some rootNode, content := .element ⟨.html, "body"⟩ [] none false }]
  opened := [bodyNode, rootNode]

def node (b : Builder) (i : Nat) : Node := b.nodes.getD i default

def elementName (b : Builder) (i : Nat) : ElementName :=
  match (b.node i).content with
  | .element name .. => name
  | _ => ⟨.html, ""⟩

def isNamed (b : Builder) (name : String) (i : Nat) : Bool := b.elementName i = ⟨.html, name⟩

def isOneOf (b : Builder) (names : List String) (i : Nat) : Bool :=
  let n := b.elementName i
  n.space = .html && names.contains n.localName

def current (b : Builder) : Nat := b.opened.headD rootNode

def hasOpen (b : Builder) (name : String) : Bool := b.opened.any (b.isNamed name)

end Builder

end DocStream.Html
