import DocStream.Dictionary

/-! The block tree of a document as its processor gives it: sections with a level and a title,
lists and their items, paragraphs, and blocks of any other kind, of which only the children count.
Titles, item texts and paragraph contents are still markup. -/

namespace DocStream

inductive BlockKind where
  | sect (level : Nat) (id : Option String) (title : String)
  | list (context : String)
  | listItem (text : String)
  | paragraph (content : String)
  | other (context : String)
deriving DecidableEq, Inhabited

def BlockKind.context : BlockKind → String
  | sect .. => "section"
  | list context => context
  | listItem _ => "list_item"
  | paragraph _ => "paragraph"
  | other context => context

inductive Block where
  | mk (kind : BlockKind) (children : List Block)
deriving Inhabited

namespace Block

def kind : Block → BlockKind
  | mk k _ => k

def children : Block → List Block
  | mk _ bs => bs

def context (b : Block) : String := b.kind.context

end Block

structure Document where
  attributes : Dictionary String := ∅
  blocks : List Block := []
deriving Inhabited

def Document.title (d : Document) : Option String := d.attributes.get? "doctitle"

end DocStream
