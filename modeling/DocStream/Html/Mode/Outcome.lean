import DocStream.Html.Build.Misnesting
import DocStream.Html.ForeignNames

/-! What handling a token leads to, and the mode that the open elements call for. -/

namespace DocStream.Html

/-- What is left to do after a token: nothing, nothing with a self-closing tag approved, the token
once more in another mode, or a change of how the text goes on. -/
inductive Outcome where
  | done
  | acknowledged
  | again (mode : Mode) (token : Token)
  | raw (kind : RawKind)
  | plaintext

namespace Build

def unexpected : Build Outcome := do
  fault .unexpectedToken
  return .done

def setMode (m : Mode) : Build Unit := modify fun b => { b with mode := m }

def isSpace (c : Char) : Bool := c = '\t' || c = '\n' || c = '\x0c' || c = '\r' || c = ' '

def modeFor (b : Builder) : List Nat → Mode
  | [] => .inBody
  | i :: is =>
    match b.elementName i with
    | ⟨.html, name⟩ =>
      match name with
      | "select" =>
        match is.find? fun j => b.isOneOf ["template", "table"] j with
        | some j => if b.isNamed "table" j then .inSelectInTable else .inSelect
        | none => .inSelect
      | "td" | "th" => .inCell
      | "tr" => .inRow
      | "tbody" | "thead" | "tfoot" => .inTableBody
      | "caption" => .inCaption
      | "colgroup" => .inColumnGroup
      | "table" => .inTable
      | "template" => b.templateModes.headD .inBody
      | "body" => .inBody
      | _ => modeFor b is
    | _ => modeFor b is

def resetMode : Build Mode := do
  let b ← get
  return modeFor b b.opened

def openRaw (tag : Tag) (kind : RawKind) : Build Outcome := do
  let _ ← openFor tag
  modify fun b => { b with returnMode := b.mode, mode := .text }
  return .raw kind

def insertEmpty (tag : Tag) : Build Outcome := do
  let _ ← insertFor tag
  return .acknowledged

def checkBodyEnd : Build Unit := do
  let b ← get
  if b.opened.any fun i => !b.isOneOf bodyEndAllowed i then fault .openAtBodyEnd

def addAttributes (i : Nat) (attributes : List Attribute) : Build Unit :=
  modifyNode i fun n =>
    match n.content with
    | .element name own contents holdsHtml =>
      let new := attributes.filter fun a => !own.any (·.name = a.name)
      { n with content := .element name (own ++ new) contents holdsHtml }
    | _ => n

end Build

end DocStream.Html
