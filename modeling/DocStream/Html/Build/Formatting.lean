import DocStream.Html.Build.OpenElements

/-! The formatting elements that are to be opened again, up to the edge of the region whose
formatting is its own. -/

namespace DocStream.Html.Build

def sinceMarker (es : List FormattingEntry) : List (Nat × Tag) :=
  match es with
  | .element i t :: rest => (i, t) :: sinceMarker rest
  | _ => []

def isFormatting (b : Builder) (i : Nat) : Bool :=
  b.formatting.any fun
    | .element j _ => j = i
    | .marker => false

def removeFormatting (i : Nat) : Build Unit :=
  modify fun b => { b with formatting := b.formatting.filter fun
    | .element j _ => j ≠ i
    | .marker => true }

def addMarker : Build Unit := modify fun b => { b with formatting := .marker :: b.formatting }

def clearToMarker : Build Unit :=
  modify fun b => { b with formatting := (b.formatting.dropWhile fun
    | .element .. => true
    | .marker => false).drop 1 }

def sameTag (s t : Tag) : Bool :=
  s.name = t.name && s.attributes.length = t.attributes.length &&
    s.attributes.all t.attributes.contains

/-- Opens a formatting element. Of equal ones only three are kept to be opened again. -/
def openFormatting (tag : Tag) : Build Unit := do
  let equal := (sinceMarker (← get).formatting).filter fun (_, t) => sameTag tag t
  if 3 ≤ equal.length then
    match equal.getLast? with
    | some (i, _) => removeFormatting i
    | none => pure ()
  let i ← openFor tag
  modify fun b => { b with formatting := .element i tag :: b.formatting }

/-- Entries that the next content brings back: those since the last marker or open element, latest
first, and the others. -/
def splitClosed (b : Builder) : List FormattingEntry → List (Nat × Tag) × List FormattingEntry
  | .element i t :: rest =>
    if b.opened.contains i then ([], .element i t :: rest)
    else
      let (closed, others) := splitClosed b rest
      ((i, t) :: closed, others)
  | rest => ([], rest)

def reconstructFormatting : Build Unit := do
  let b ← get
  let (closed, others) := splitClosed b b.formatting
  if closed.isEmpty then return
  let mut entries := others
  for (_, tag) in closed.reverse do
    let i ← openFor tag
    entries := .element i tag :: entries
  modify fun b => { b with formatting := entries }

end DocStream.Html.Build
