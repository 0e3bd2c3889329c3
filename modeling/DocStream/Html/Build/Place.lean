import DocStream.Html.Build.Nodes

/-! Where new content goes. Content that a table may not hold is put before the table, and the
content of a template under a tree of its own. -/

namespace DocStream.Html.Build

/-- Where something new goes: last under a node, or right before a table, and if that has no parent
last under the element around it. -/
inductive Place where
  | under (parent : Nat)
  | beforeTable (table around : Nat)

def fosterPlace (b : Builder) : List Nat → Place
  | [] => .under Builder.rootNode
  | i :: is =>
    match (b.node i).content with
    | .element ⟨.html, "template"⟩ _ (some contents) _ => .under contents
    | .element ⟨.html, "table"⟩ .. => .beforeTable i (is.headD Builder.rootNode)
    | _ => fosterPlace b is

def place (target : Option Nat) : Build Place := do
  let b ← get
  let target := target.getD b.current
  if b.fosterParenting && b.isOneOf tableParts target then return fosterPlace b b.opened
  else
    match (b.node target).content with
    | .element ⟨.html, "template"⟩ _ (some contents) _ => return .under contents
    | _ => return .under target

def insertNode (spot : Place) (child : Nat) : Build Unit := do
  match spot with
  | .under p => appendNode p child
  | .beforeTable table around =>
    match placeOf (← get) table with
    | some (p, i) => insertBefore p i child
    | none => appendNode around child

def insertChar (c : Char) : Build Unit := do
  match ← place none with
  | .under p => appendChar p c
  | .beforeTable table around =>
    match placeOf (← get) table with
    | some (p, i) => insertCharBefore p i c
    | none => appendChar around c

def insertComment : Build Unit := do
  insertNode (← place none) (← newNode .comment)

end DocStream.Html.Build
