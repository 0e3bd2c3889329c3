import DocStream.Html.Mode.Template

/-! Foreign content: the elements of SVG and MathML, out of which some HTML elements break. -/

namespace DocStream.Html.Build

def holdsHtml (b : Builder) (i : Nat) : Bool :=
  match (b.node i).content with
  | .element _ _ _ h => h
  | _ => false

/-- Whether a token belongs to foreign content: the current element is foreign, and does not take
HTML for tokens of this kind. -/
def isForeign (b : Builder) (token : Token) : Bool :=
  let n := b.elementName b.current
  if b.opened.isEmpty || n.space = .html then false
  else
    match token with
    | .finish => false
    | .char _ => !(n.isTextPoint || n.isHtmlPoint || holdsHtml b b.current)
    | .startTag tag =>
      !((n.isTextPoint && tag.name ≠ "mglyph" && tag.name ≠ "malignmark") || n.isHtmlPoint ||
        holdsHtml b b.current || (n = ⟨.mathml, "annotation-xml"⟩ && tag.name = "svg"))
    | _ => true

def breakoutNames : List String :=
  ["b", "big", "blockquote", "body", "br", "center", "code", "dd", "div", "dl", "dt", "em",
   "embed", "h1", "h2", "h3", "h4", "h5", "h6", "head", "hr", "i", "img", "li", "listing", "menu",
   "meta", "nobr", "ol", "p", "pre", "ruby", "s", "small", "span", "strong", "strike", "sub",
   "sup", "table", "tt", "u", "ul", "var"]

def breaksOut (tag : Tag) : Bool :=
  breakoutNames.contains tag.name ||
    (tag.name = "font" && tag.attributes.any fun a => ["color", "face", "size"].contains a.name)

def breakOut (token : Token) : Build Outcome := do
  fault .unexpectedToken
  modify fun b => { b with opened := b.opened.dropWhile fun i =>
    let n := b.elementName i
    !(n.space = .html || n.isTextPoint || n.isHtmlPoint) }
  inMode (← get).mode token

def foreignMatch (b : Builder) (name : String) : List Nat → Option (List Nat)
  | [] => none
  | [_] => none
  | i :: is =>
    let n := b.elementName i
    if n.localName.map Char.toLower = name then some is
    else if is.head?.any fun j => (b.elementName j).space = .html then none
    else foreignMatch b name is

def foreignEnd (tag : Tag) : Build Outcome := do
  let b ← get
  if (b.elementName b.current).localName.map Char.toLower ≠ tag.name then fault .unexpectedToken
  match foreignMatch b tag.name b.opened with
  | some left =>
    modify fun b => { b with opened := left }
    return .done
  | none => inMode b.mode (.endTag tag)

def inForeign (token : Token) : Build Outcome := do
  match token with
  | .char c =>
    if c = '\x00' then
      fault .unexpectedToken
      insertChar '\ufffd'
    else insertChar c
    return .done
  | .comment =>
    insertComment
    return .done
  | .startTag tag =>
    if breaksOut tag then breakOut token
    else
      let b ← get
      match (b.elementName b.current).space with
      | .svg => openForeign .svg tag.asSvg
      | s => openForeign s tag.asMathml
  | .endTag tag => if tag.name = "br" || tag.name = "p" then breakOut token else foreignEnd tag
  | _ => return .done

end DocStream.Html.Build
