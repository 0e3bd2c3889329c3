import DocStream.Fragment
import DocStream.Html.Document
import DocStream.Text.Blank

/-! Fragments written in HTML. Paragraphs come from `p` elements and from what stands between them
and other blocks; blocks other than `p` leave nothing but that division behind, and an inline
element that is no style, link or break leaves only its content. Blanks count as one space, and
none stand at the edges of a paragraph. -/

namespace DocStream.Fragment.Html
open DocStream.Html

def blockNames : List String :=
  ["div", "section", "article", "aside", "header", "footer", "blockquote", "pre", "ul", "ol", "li",
   "dl", "dt", "dd", "table", "thead", "tbody", "tfoot", "tr", "td", "th"]

def droppedNames : List String := ["script", "style", "template", "head"]

def styleOf : String → Option Style
  | "strong" | "b" => some .bold
  | "em" | "i" => some .italic
  | "code" | "tt" | "kbd" => some .monospace
  | "sup" => some .superscript
  | "sub" => some .subscript
  | "u" | "ins" => some .underlined
  | "del" | "s" | "strike" => some .strikedout
  | _ => none

/-! ### Links -/

def isSchemeChar (c : Char) : Bool := c.isAlphanum || c = '+' || c = '.' || c = '-'

def afterScheme (address : List Char) : Option (List Char) :=
  if address.head?.any Char.isAlpha then
    match address.dropWhile isSchemeChar with
    | ':' :: rest => some rest
    | _ => none
  else none

/-- An address names a resource of the network if its scheme is followed by two slashes; a scheme of
any other kind still says what the address is. -/
def referenceTo (address : String) : Reference :=
  match afterScheme address.toList with
  | some ('/' :: '/' :: _) => { kind := .url, target := address }
  | some _ => { kind := .path, target := address }
  | none => { kind := .path, target := address, typed := false }

def isBare (a : DocStream.Html.Attribute) : Bool :=
  a.name = "class" && (Text.words a.value).contains "bare"

def linkHead (attributes : List DocStream.Html.Attribute) : Option LinkHead :=
  match attributes.find? (·.name = "href") with
  | none => none
  | some address =>
    let others := attributes.filter (·.name ≠ "href")
    some
      { reference :=
          { referenceTo address.value with
            parameters := .ofList (others.map fun a => (a.name, a.value)) }
        freeStanding := others.any isBare }

/-! ### Text at the edges -/

def trimFront : Fragment → Fragment
  | [] => []
  | .text s :: ns =>
    let t := Text.trimStart s
    if t.isEmpty then trimFront ns else .text t :: ns
  | n :: ns => n :: ns

/-- Trims the text a backwards fragment begins with at its end. -/
def trimBack : Fragment → Fragment
  | [] => []
  | .text s :: ns =>
    let t := Text.trimEnd s
    if t.isEmpty then trimBack ns else .text t :: ns
  | n :: ns => n :: ns

def trim (f : Fragment) : Fragment := (trimBack (trimFront f).reverse).reverse

/-! ### Elements -/

mutual

def inline : Dom → Fragment
  | .text s =>
    let t := Text.collapseBlanks s
    if t.isEmpty then [] else [.text t]
  | .comment => []
  | .element name attributes children =>
    match styleOf name with
    | some s => [.format s (inlineAll children)]
    | none =>
      if name = "br" then [.lineBreak]
      else if name = "a" then
        match linkHead attributes with
        | some h => [.link h (inlineAll children)]
        | none => inlineAll children
      else if droppedNames.contains name then []
      else inlineAll children

def inlineAll : List Dom → Fragment
  | [] => []
  | d :: ds => inline d ++ inlineAll ds

end

def paragraphOf (run : Fragment) : Fragment :=
  let f := trim run
  if f.isEmpty then [] else [.paragraph f]

mutual

/-- What a node adds to the paragraphs and to the text that runs on after them, given the text that
ran on before it. -/
def block (run : Fragment) : Dom → Fragment × Fragment
  | .element name attributes children =>
    if name = "p" then (paragraphOf run ++ [.paragraph (trim (inlineAll children))], [])
    else if blockNames.contains name then
      let (done, rest) := blocksFrom [] children
      (paragraphOf run ++ done ++ paragraphOf rest, [])
    else ([], run ++ inline (.element name attributes children))
  | d => ([], run ++ inline d)

def blocksFrom (run : Fragment) : List Dom → Fragment × Fragment
  | [] => ([], run)
  | d :: ds =>
    let (done, run) := block run d
    let (more, run) := blocksFrom run ds
    (done ++ more, run)

end

def blocks (ds : List Dom) : Fragment :=
  let (done, run) := blocksFrom [] ds
  done ++ paragraphOf run

def reader (strict : Bool) : FragmentReader := fun text =>
  let d := Document.ofBody text
  match strict, d.firstFault with
  | true, some f => .error ⟨text, f.message⟩
  | _, _ => .ok (blocks d.body)

end DocStream.Fragment.Html
