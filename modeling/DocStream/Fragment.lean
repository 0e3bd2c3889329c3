import DocStream.Event

/-! Inline markup as a small tree: paragraphs, styled runs and links around text and line breaks.
A fragment is written as the events of its nodes in order, so a link's label stands between the two
events of the link. -/

namespace DocStream

inductive FragmentNode where
  | paragraph (children : List FragmentNode)
  | format (style : Style) (children : List FragmentNode)
  | link (head : LinkHead) (label : List FragmentNode)
  | text (content : String)
  | lineBreak
deriving Inhabited

abbrev Fragment := List FragmentNode

structure Link where
  head : LinkHead
  label : Fragment

namespace FragmentNode

def children : FragmentNode → List FragmentNode
  | paragraph cs => cs
  | format _ cs => cs
  | link _ cs => cs
  | text _ => []
  | lineBreak => []

mutual

def events : FragmentNode → List Event
  | paragraph cs => .opening .paragraph :: eventsAll cs ++ [.closing .paragraph]
  | format s cs => .opening (.format s) :: eventsAll cs ++ [.closing (.format s)]
  | link h cs => .opening (.link h) :: eventsAll cs ++ [.closing (.link h)]
  | text s => [.text s]
  | lineBreak => [.lineBreak]

def eventsAll : List FragmentNode → List Event
  | [] => []
  | n :: ns => n.events ++ eventsAll ns

end

mutual

/-- Hands every link to `change` in document order, a link before those inside its label, with a
state passed along. The change sees no label and any label it returns is put aside: the link keeps
its own, changed in turn. -/
def mapLinksFrom {σ : Type} (change : σ → Link → σ × Link) (s : σ) :
    FragmentNode → σ × FragmentNode
  | paragraph cs =>
    let (s, cs) := mapAllFrom change s cs
    (s, .paragraph cs)
  | format style cs =>
    let (s, cs) := mapAllFrom change s cs
    (s, .format style cs)
  | link h cs =>
    let (s, l) := change s ⟨h, []⟩
    let (s, cs) := mapAllFrom change s cs
    (s, .link l.head cs)
  | text t => (s, .text t)
  | lineBreak => (s, .lineBreak)

def mapAllFrom {σ : Type} (change : σ → Link → σ × Link) (s : σ) :
    List FragmentNode → σ × List FragmentNode
  | [] => (s, [])
  | n :: ns =>
    let (s, n) := mapLinksFrom change s n
    let (s, ns) := mapAllFrom change s ns
    (s, n :: ns)

end

end FragmentNode

namespace Fragment

def events (f : Fragment) : List Event := FragmentNode.eventsAll f

def stripWrapper : Fragment → Fragment
  | [] => []
  | n :: ns => n.children ++ ns

def mapLinksFrom {σ : Type} (change : σ → Link → σ × Link) (s : σ) (f : Fragment) :
    σ × Fragment :=
  FragmentNode.mapAllFrom change s f

def mapLinks (change : Link → Link) (f : Fragment) : Fragment :=
  (f.mapLinksFrom (fun _ l => ((), change l)) ()).2

end Fragment

structure FragmentError where
  text : String
  cause : String
deriving DecidableEq, Repr

namespace FragmentError

def message (e : FragmentError) : String :=
  "failed to parse fragment " ++ Text.quote e.text ++ ": " ++ e.cause

end FragmentError

abbrev FragmentReader := String → Except FragmentError Fragment

end DocStream
