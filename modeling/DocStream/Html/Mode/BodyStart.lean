import DocStream.Html.Mode.Head

/-! Characters and start tags in body text. -/

namespace DocStream.Html.Build

def bodyChar (c : Char) : Build Outcome := do
  if c = '\x00' then unexpected
  else
    reconstructFormatting
    insertChar c
    return .done

def blockNames : List String :=
  ["address", "article", "aside", "blockquote", "center", "details", "dialog", "dir", "div", "dl",
   "fieldset", "figcaption", "figure", "footer", "header", "hgroup", "main", "menu", "nav", "ol",
   "p", "search", "section", "summary", "ul"]

def blockEndNames : List String :=
  ["address", "article", "aside", "blockquote", "button", "center", "details", "dialog", "dir",
   "div", "dl", "fieldset", "figcaption", "figure", "footer", "header", "hgroup", "listing",
   "main", "menu", "nav", "ol", "pre", "search", "section", "summary", "ul"]

def formattingNames : List String :=
  ["b", "big", "code", "em", "font", "i", "s", "small", "strike", "strong", "tt", "u"]

def itemToClose (b : Builder) (names : List String) : List Nat → Option String
  | [] => none
  | i :: is =>
    if b.isOneOf names i then some (b.elementName i).localName
    else if b.isOneOf specials i && !b.isOneOf ["address", "div", "p"] i then none
    else itemToClose b names is

def openItem (tag : Tag) (names : List String) : Build Outcome := do
  let b ← get
  match itemToClose b names b.opened with
  | some name =>
    closeImpliedExcept name
    expectToClose name
  | none => pure ()
  closeParagraphInScope
  let _ ← openFor tag
  return .done

def isHidden (tag : Tag) : Bool :=
  match tag.attributes.find? (·.name = "type") with
  | some a => a.value.map Char.toLower = "hidden"
  | none => false

def openForeign (space : Namespace) (tag : Tag) : Build Outcome := do
  let _ ← insertElement ⟨space, tag.name⟩ tag.attributes (!tag.selfClosing)
  return if tag.selfClosing then .acknowledged else .done

def openBlock (tag : Tag) : Build Outcome := do
  closeParagraphInScope
  let _ ← openFor tag
  return .done

def openInline (tag : Tag) : Build Outcome := do
  reconstructFormatting
  let _ ← openFor tag
  return .done

def emptyInline (tag : Tag) : Build Outcome := do
  reconstructFormatting
  insertEmpty tag

def openFormattingTag (tag : Tag) : Build Outcome := do
  reconstructFormatting
  openFormatting tag
  return .done

def openSelect (tag : Tag) : Build Outcome := do
  reconstructFormatting
  let _ ← openFor tag
  modify fun b =>
    let inTable := [Mode.inTable, .inCaption, .inTableBody, .inRow, .inCell].contains b.mode
    { b with mode := if inTable then .inSelectInTable else .inSelect }
  return .done

def openForm (tag : Tag) : Build Outcome := do
  let b ← get
  let inTemplate := b.hasOpen "template"
  if b.form.isSome && !inTemplate then fault .nestedForms
  else
    closeParagraphInScope
    let i ← openFor tag
    if !inTemplate then modify fun b => { b with form := some i }
  return .done

def openButton (tag : Tag) : Build Outcome := do
  if (← get).nameInScope .default "button" then
    fault .nestedButtons
    closeImplied impliedEnds
    let _ ← closeThroughNamed "button"
  openInline tag

def openHeading (tag : Tag) : Build Outcome := do
  closeParagraphInScope
  if ← isCurrentIn headings then
    fault .nestedHeadings
    pop
  let _ ← openFor tag
  return .done

def openNobr (tag : Tag) : Build Outcome := do
  reconstructFormatting
  if (← get).nameInScope .default "nobr" then
    fault .nestedNobr
    closeFormatting "nobr"
    reconstructFormatting
  openFormatting tag
  return .done

def openRuby (tag : Tag) (keep : List String) (outer : List String) : Build Outcome := do
  if (← get).nameInScope .default "ruby" then
    closeImplied (impliedEnds.filter fun n => !keep.contains n)
  if !(← isCurrentIn outer) then fault .unexpectedToken
  let _ ← openFor tag
  return .done

def bodyStart (tag : Tag) : Build Outcome := do
  match tag.name with
  | "html" =>
    fault .unexpectedToken
    if !(← get).hasOpen "template" then addAttributes Builder.rootNode tag.attributes
    return .done
  | "body" =>
    fault .unexpectedToken
    if !(← get).hasOpen "template" then addAttributes Builder.bodyNode tag.attributes
    return .done
  | "frameset" | "caption" | "col" | "colgroup" | "frame" | "head" | "tbody" | "td" | "tfoot"
  | "th" | "thead" | "tr" => unexpected
  | "h1" | "h2" | "h3" | "h4" | "h5" | "h6" => openHeading tag
  | "pre" | "listing" =>
    let o ← openBlock tag
    modify fun b => { b with skipNewline := true }
    return o
  | "form" => openForm tag
  | "li" => openItem tag ["li"]
  | "dd" | "dt" => openItem tag ["dd", "dt"]
  | "plaintext" =>
    let _ ← openBlock tag
    return .plaintext
  | "button" => openButton tag
  | "a" =>
    closeOuterLink
    openFormattingTag tag
  | "nobr" => openNobr tag
  | "applet" | "marquee" | "object" =>
    let o ← openInline tag
    addMarker
    return o
  | "table" =>
    let o ← openBlock tag
    setMode .inTable
    return o
  | "area" | "br" | "embed" | "img" | "keygen" | "wbr" | "input" => emptyInline tag
  | "param" | "source" | "track" => insertEmpty tag
  | "hr" =>
    closeParagraphInScope
    insertEmpty tag
  | "image" =>
    fault .unexpectedToken
    emptyInline { tag with name := "img" }
  | "textarea" =>
    modify fun b => { b with skipNewline := true }
    openRaw tag .rcdata
  | "xmp" =>
    closeParagraphInScope
    reconstructFormatting
    openRaw tag .rawtext
  | "iframe" | "noembed" | "noscript" => openRaw tag .rawtext
  | "select" => openSelect tag
  | "optgroup" | "option" =>
    if ← isCurrent "option" then pop
    openInline tag
  | "rb" | "rtc" => openRuby tag [] ["ruby"]
  | "rp" | "rt" => openRuby tag ["rtc"] ["rtc", "ruby"]
  | "math" => openForeign .mathml tag.asMathml
  | "svg" => openForeign .svg tag.asSvg
  | name =>
    if headNames.contains name then headStart tag
    else if blockNames.contains name then openBlock tag
    else if formattingNames.contains name then openFormattingTag tag
    else openInline tag

end DocStream.Html.Build
