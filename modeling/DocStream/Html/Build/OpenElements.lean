import DocStream.Html.Build.Place

/-! Opening and closing elements. The innermost open element comes first, so that closing takes
from the front. -/

namespace DocStream.Html.Build

def push (i : Nat) : Build Unit := modify fun b => { b with opened := i :: b.opened }

def pop : Build Unit := modify fun b => { b with opened := b.opened.tail }

def insertElement (name : ElementName) (attributes : List Attribute) (staysOpen : Bool) :
    Build Nat := do
  let i ← newElement name attributes
  insertNode (← place none) i
  if staysOpen then push i
  return i

def openFor (tag : Tag) : Build Nat := insertElement ⟨.html, tag.name⟩ tag.attributes true

def insertFor (tag : Tag) : Build Nat := insertElement ⟨.html, tag.name⟩ tag.attributes false

def openPhantom (name : String) : Build Unit := do
  let _ ← insertElement ⟨.html, name⟩ [] true

def isCurrent (name : String) : Build Bool := do
  let b ← get
  return b.isNamed name b.current

def isCurrentIn (names : List String) : Build Bool := do
  let b ← get
  return b.isOneOf names b.current

def closeThrough (p : Nat → Bool) : Build Nat := do
  let b ← get
  let above := b.opened.takeWhile fun i => !p i
  set { b with opened := b.opened.drop (above.length + 1) }
  return above.length + 1

def closeThroughNamed (name : String) : Build Nat := do
  closeThrough ((← get).isNamed name)

def expectToClose (name : String) : Build Unit := do
  if (← closeThroughNamed name) ≠ 1 then fault .unexpectedOpenElement

def closeDownTo (names : List String) : Build Unit :=
  modify fun b => { b with opened := b.opened.dropWhile fun i => !b.isOneOf names i }

def closeImplied (names : List String) : Build Unit :=
  modify fun b => { b with opened := b.opened.dropWhile (b.isOneOf names) }

def closeImpliedExcept (name : String) : Build Unit := closeImplied (impliedEnds.filter (· ≠ name))

def closeParagraph : Build Unit := do
  closeImpliedExcept "p"
  expectToClose "p"

def closeParagraphInScope : Build Unit := do
  if (← get).nameInScope .button "p" then closeParagraph

def removeOpen (i : Nat) : Build Unit :=
  modify fun b => { b with opened := b.opened.filter (· ≠ i) }

end DocStream.Html.Build
