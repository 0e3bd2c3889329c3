import DocStream.Html.Builder

/-! Classes of elements, and how far an end tag looks for its element: the search for it ends at
elements that close off what they hold. -/

namespace DocStream.Html

def impliedEnds : List String :=
  ["dd", "dt", "li", "option", "optgroup", "p", "rb", "rp", "rt", "rtc"]

def thoroughImpliedEnds : List String :=
  impliedEnds ++ ["caption", "colgroup", "tbody", "td", "tfoot", "th", "thead", "tr"]

def headings : List String := ["h1", "h2", "h3", "h4", "h5", "h6"]

def specials : List String :=
  ["address", "applet", "area", "article", "aside", "base", "basefont", "bgsound", "blockquote",
   "body", "br", "button", "caption", "center", "col", "colgroup", "dd", "details", "dir", "div",
   "dl", "dt", "embed", "fieldset", "figcaption", "figure", "footer", "form", "frame", "frameset",
   "h1", "h2", "h3", "h4", "h5", "h6", "head", "header", "hgroup", "hr", "html", "iframe", "img",
   "input", "isindex", "li", "link", "listing", "main", "marquee", "menu", "meta", "nav", "noembed",
   "noframes", "noscript", "object", "ol", "p", "param", "plaintext", "pre", "script", "section",
   "select", "source", "style", "summary", "table", "tbody", "td", "template", "textarea", "tfoot",
   "th", "thead", "title", "tr", "track", "ul", "wbr", "xmp"]

def tableParts : List String := ["table", "tbody", "tfoot", "thead", "tr"]

def bodyEndAllowed : List String :=
  ["dd", "dt", "li", "optgroup", "option", "p", "rp", "rt", "tbody", "td", "tfoot", "th", "thead",
   "tr", "body", "html"]

namespace ElementName

def isTextPoint (n : ElementName) : Bool :=
  n.space = .mathml && ["mi", "mo", "mn", "ms", "mtext"].contains n.localName

def isHtmlPoint (n : ElementName) : Bool :=
  n.space = .svg && ["foreignObject", "desc", "title"].contains n.localName

end ElementName

inductive Scope where
  | default
  | listItem
  | button
  | table
  | select

namespace Scope

def defaultEnds : List String :=
  ["applet", "caption", "html", "table", "td", "th", "marquee", "object", "template"]

def endsAt (s : Scope) (n : ElementName) : Bool :=
  let html (names : List String) := n.space = .html && names.contains n.localName
  let default := html defaultEnds || n.isTextPoint || n.isHtmlPoint
  match s with
  | .default => default
  | .listItem => default || html ["ol", "ul"]
  | .button => default || html ["button"]
  | .table => html ["html", "table", "template"]
  | .select => !html ["optgroup", "option"]

end Scope

namespace Builder

def findInScope (b : Builder) (scope : Scope) (p : Nat → Bool) : List Nat → Bool
  | [] => false
  | i :: is =>
    if p i then true
    else if scope.endsAt (b.elementName i) then false
    else b.findInScope scope p is

def inScope (b : Builder) (scope : Scope) (p : Nat → Bool) : Bool := b.findInScope scope p b.opened

def nameInScope (b : Builder) (scope : Scope) (name : String) : Bool :=
  b.inScope scope (b.isNamed name)

end Builder

end DocStream.Html
