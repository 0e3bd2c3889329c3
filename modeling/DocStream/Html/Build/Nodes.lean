import DocStream.Html.Scope

/-! Steps on the store of nodes. A node has at most one parent, and text that follows text becomes
one node with it. -/

namespace DocStream.Html.Build

def fault (f : Fault) : Build Unit := modify fun b => { b with faults := f :: b.faults }

def newNode (content : Content) : Build Nat :=
  modifyGet fun b => (b.nodes.size, { b with nodes := b.nodes.push { content } })

def modifyNode (i : Nat) (f : Node → Node) : Build Unit :=
  modify fun b => { b with nodes := b.nodes.modify i f }

def newElement (name : ElementName) (attributes : List Attribute) : Build Nat := do
  let contents ←
    if name = ⟨.html, "template"⟩ then some <$> newNode .fragment else pure none
  let holdsHtml :=
    name = ⟨.mathml, "annotation-xml"⟩ && attributes.any fun a =>
      a.name = "encoding" &&
        ["text/html", "application/xhtml+xml"].contains (a.value.map Char.toLower)
  newNode (.element name attributes contents holdsHtml)

def detach (i : Nat) : Build Unit := do
  let b ← get
  match (b.node i).parent with
  | none => return
  | some p =>
    modifyNode p fun n => { n with children := n.children.filter (· ≠ i) }
    modifyNode i fun n => { n with parent := none }

def appendNode (parent child : Nat) : Build Unit := do
  modifyNode child fun n => { n with parent := some parent }
  modifyNode parent fun n => { n with children := n.children.push child }

def isText (b : Builder) (i : Nat) : Bool :=
  match (b.node i).content with
  | .text _ => true
  | _ => false

def extendText (i : Nat) (c : Char) : Build Unit :=
  modifyNode i fun n =>
    match n with
    | ⟨parent, .text s, children⟩ => ⟨parent, .text (s.push c), children⟩
    | n => n

def appendChar (parent : Nat) (c : Char) : Build Unit := do
  let b ← get
  match (b.node parent).children.back? with
  | some last =>
    if isText b last then extendText last c
    else appendNode parent (← newNode (.text (String.singleton c)))
  | none => appendNode parent (← newNode (.text (String.singleton c)))

def placeOf (b : Builder) (i : Nat) : Option (Nat × Nat) := do
  let p ← (b.node i).parent
  return (p, (b.node p).children.toList.idxOf i)

def insertBefore (parent place child : Nat) : Build Unit := do
  detach child
  modifyNode child fun n => { n with parent := some parent }
  modifyNode parent fun n =>
    let cs := n.children.toList
    { n with children := (cs.take place ++ child :: cs.drop place).toArray }

def insertCharBefore (parent place : Nat) (c : Char) : Build Unit := do
  let b ← get
  let before := if place = 0 then none else (b.node parent).children[place - 1]?
  match before with
  | some i =>
    if isText b i then extendText i c
    else insertBefore parent place (← newNode (.text (String.singleton c)))
  | none => insertBefore parent place (← newNode (.text (String.singleton c)))

end DocStream.Html.Build
