import DocStream.Html.Build.Formatting

/-! End tags that do not match what is open. A generic end tag closes up to its element unless a
special element lies between. A formatting element that is closed across a block is split: the
block moves out of it, and a copy of it takes in what the block held. -/

namespace DocStream.Html.Build

def matchEnd (b : Builder) (name : String) : List Nat → Option (List Nat)
  | [] => none
  | i :: is =>
    if b.isNamed name i then some is
    else if b.isOneOf specials i then none
    else matchEnd b name is

def genericEnd (name : String) : Build Unit := do
  let b ← get
  match matchEnd b name b.opened with
  | none => fault .specialBetween
  | some outer =>
    closeImpliedExcept name
    if (← get).opened.length ≠ outer.length + 1 then fault .unexpectedToken
    modify fun b => { b with opened := outer }

def tagOf (b : Builder) (i : Nat) : Option Tag :=
  b.formatting.findSome? fun
    | .element j t => if j = i then some t else none
    | .marker => none

def replaceFormatting (i : Nat) (entry : FormattingEntry) : Build Unit :=
  modify fun b => { b with formatting := b.formatting.map fun
    | .element j t => if j = i then entry else .element j t
    | .marker => .marker }

/-- Puts an entry after another one, which means before it in a list with the latest first. -/
def addAfter (i : Nat) (entry : FormattingEntry) : Build Unit :=
  modify fun b => { b with formatting := b.formatting.flatMap fun
    | .element j t => if j = i then [entry, .element j t] else [.element j t]
    | .marker => [.marker] }

def copyOf (tag : Tag) : Build Nat := newElement ⟨.html, tag.name⟩ tag.attributes

/-- Goes outward through the elements between a block and the formatting element around it. The
first three are copied, each copy taking in the last one made, beginning with the block; what is no
formatting element, and every element after the third, is closed. Returns the copies, the last node
made, and the copy that was made first. -/
def wrapOutward (block : Nat) :
    List Nat → (seen last : Nat) → Option Nat → Build (List Nat × Nat × Option Nat)
  | [], _, last, first => return ([], last, first)
  | i :: is, seen, last, first => do
    if 3 ≤ seen then
      removeFormatting i
      wrapOutward block is (seen + 1) last first
    else
      match tagOf (← get) i with
      | none => wrapOutward block is (seen + 1) last first
      | some tag =>
        let copy ← copyOf tag
        replaceFormatting i (.element copy tag)
        detach last
        appendNode copy last
        let (copies, last', first') ←
          wrapOutward block is (seen + 1) copy (if last = block then some copy else first)
        return (copy :: copies, last', first')

def moveChildren (source target : Nat) : Build Unit := do
  let children := ((← get).node source).children
  for c in children do
    modifyNode c fun n => { n with parent := some target }
  modifyNode target fun n => { n with children := n.children ++ children }
  modifyNode source fun n => { n with children := #[] }

/-- Splits a formatting element around the outermost block in it. `inner` and `outer` are the open
elements around the ones between block and formatting element, the nearest to the block first. -/
def splitAround (element : Nat) (tag : Tag) (block : Nat) (inner between outer : List Nat) :
    Build Unit := do
  let (copies, last, first) ← wrapOutward block between 0 block none
  detach last
  insertNode (← place outer.head?) last
  let copy ← copyOf tag
  moveChildren block copy
  appendNode block copy
  let entry := FormattingEntry.element copy tag
  match first with
  | none => replaceFormatting element entry
  | some f =>
    addAfter f entry
    removeFormatting element
  modify fun b => { b with opened := inner ++ copy :: block :: copies ++ outer }

def closeFormattingFrom (name : String) : (rounds : Nat) → Build Unit
  | 0 => return
  | rounds + 1 => do
    let b ← get
    match (sinceMarker b.formatting).find? fun (_, t) => t.name = name with
    | none => genericEnd name
    | some (element, tag) =>
      if !b.opened.contains element then
        fault .formattingNotOpen
        removeFormatting element
      else if !b.inScope .default (· = element) then fault .formattingOutOfScope
      else
        if b.current ≠ element then fault .formattingNotCurrent
        let above := b.opened.takeWhile (· ≠ element)
        let outer := b.opened.drop (above.length + 1)
        match above.reverse.find? (b.isOneOf specials) with
        | none =>
          modify fun b => { b with opened := outer }
          removeFormatting element
        | some block =>
          let inner := above.takeWhile (· ≠ block)
          let between := above.drop (inner.length + 1)
          splitAround element tag block inner between outer
          closeFormattingFrom name rounds

def closeFormatting (name : String) : Build Unit := do
  let b ← get
  if b.isNamed name b.current && !isFormatting b b.current then pop
  else closeFormattingFrom name 8

def closeOuterLink : Build Unit := do
  let b ← get
  match (sinceMarker b.formatting).find? fun (i, _) => b.isNamed "a" i with
  | none => return
  | some (i, _) =>
    fault .unexpectedToken
    closeFormatting "a"
    removeFormatting i
    removeOpen i

end DocStream.Html.Build
