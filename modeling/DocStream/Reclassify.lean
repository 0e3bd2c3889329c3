import DocStream.Fragment

/-! The kinds of link the source language knows: addresses, mail, and references without a type. A
fragment reader tells addresses from paths only, so each of its links is put into one of three
classes, the first that fits. -/

namespace DocStream

inductive LinkClass where
  | url
  | mailto
  | untyped
deriving DecidableEq, Repr

namespace Reference

def mailtoScheme : String := "mailto:"

def afterMailto (target : String) : Option String :=
  if mailtoScheme.toList.isPrefixOf target.toList then
    some (String.ofList (target.toList.drop mailtoScheme.length))
  else none

def linkClass (r : Reference) : LinkClass :=
  match r.kind with
  | .url => .url
  | .path => if (afterMailto r.target).isSome then .mailto else .untyped
  | _ => .untyped

/-- An address loses its parameters, a mail link only its scheme. Anything else becomes an untyped
reference without parameters, to a wiki document in wiki mode and to an address otherwise. -/
def reclassify (r : Reference) (wiki : Bool) : Reference :=
  match r.linkClass with
  | .url => { r with parameters := ∅ }
  | .mailto => { r with kind := .mailto, target := (afterMailto r.target).getD r.target }
  | .untyped =>
    { kind := if wiki then .document else .url, target := r.target, typed := false,
      parameters := ∅ }

end Reference

namespace Link

/-- An untyped link is never free-standing. -/
def reclassify (l : Link) (wiki : Bool) : Link where
  head :=
    { reference := l.head.reference.reclassify wiki,
      freeStanding := l.head.reference.linkClass != .untyped && l.head.freeStanding }
  label := l.label

end Link

namespace Fragment

def reclassify (f : Fragment) (wiki : Bool) : Fragment := f.mapLinks (·.reclassify wiki)

def translate (text : String) (read : FragmentReader) (strip wiki : Bool) :
    Except FragmentError (List Event) := do
  let f ← read text
  let f := if strip then f.stripWrapper else f
  return (f.reclassify wiki).events

end Fragment

end DocStream
