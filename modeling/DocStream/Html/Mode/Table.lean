import DocStream.Html.Mode.Body

/-! Tables, their captions and their columns. What does not belong in a table is handled as body
text and put before it. -/

namespace DocStream.Html.Build

def misplaced (token : Token) : Build Outcome := do
  modify fun b => { b with fosterParenting := true }
  let o ← inBody token
  modify fun b => { b with fosterParenting := false }
  return o

def tableChar (c : Char) : Build Outcome := do
  if ← isCurrentIn tableParts then
    modify fun b => { b with returnMode := b.mode }
    return .again .inTableText (.char c)
  else
    fault .charactersInTable
    misplaced (.char c)

def tableStart (tag : Tag) : Build Outcome := do
  let tableContext := ["html", "table", "template"]
  match tag.name with
  | "caption" =>
    closeDownTo tableContext
    addMarker
    let _ ← openFor tag
    setMode .inCaption
    return .done
  | "colgroup" =>
    closeDownTo tableContext
    let _ ← openFor tag
    setMode .inColumnGroup
    return .done
  | "col" =>
    closeDownTo tableContext
    openPhantom "colgroup"
    return .again .inColumnGroup (.startTag tag)
  | "tbody" | "tfoot" | "thead" =>
    closeDownTo tableContext
    let _ ← openFor tag
    setMode .inTableBody
    return .done
  | "td" | "th" | "tr" =>
    closeDownTo tableContext
    openPhantom "tbody"
    return .again .inTableBody (.startTag tag)
  | "table" =>
    fault .unexpectedToken
    if (← get).nameInScope .table "table" then
      let _ ← closeThroughNamed "table"
      return .again (← resetMode) (.startTag tag)
    else return .done
  | "style" | "script" | "template" => headStart tag
  | "input" =>
    fault .unexpectedToken
    if isHidden tag then insertEmpty tag else misplaced (.startTag tag)
  | "form" =>
    fault .unexpectedToken
    let b ← get
    if !b.hasOpen "template" && b.form.isNone then
      let i ← insertFor tag
      modify fun b => { b with form := some i }
    return .done
  | _ =>
    fault .unexpectedToken
    misplaced (.startTag tag)

def tableEnd (tag : Tag) : Build Outcome := do
  match tag.name with
  | "table" =>
    if (← get).nameInScope .table "table" then
      let _ ← closeThroughNamed "table"
      setMode (← resetMode)
      return .done
    else unexpected
  | "body" | "caption" | "col" | "colgroup" | "html" | "tbody" | "td" | "tfoot" | "th" | "thead"
  | "tr" => unexpected
  | "template" => templateEnd
  | _ =>
    fault .unexpectedToken
    misplaced (.endTag tag)

def inTable (token : Token) : Build Outcome := do
  match token with
  | .char c => tableChar c
  | .comment =>
    insertComment
    return .done
  | .startTag tag => tableStart tag
  | .endTag tag => tableEnd tag
  | _ => inBody token

/-- Text between the parts of a table is held back until it is known whether it is all white
space. -/
def inTableText (token : Token) : Build Outcome := do
  match token with
  | .char c =>
    if c = '\x00' then unexpected
    else
      modify fun b => { b with tableText := c :: b.tableText }
      return .done
  | _ =>
    let b ← get
    let held := b.tableText.reverse
    set { b with tableText := [] }
    if held.all isSpace then
      for c in held do
        insertChar c
    else
      fault .textInTable
      for c in held do
        let _ ← misplaced (.char c)
    return .again b.returnMode token

def inCaption (token : Token) : Build Outcome := do
  let close (next : Build Outcome) : Build Outcome := do
    if (← get).nameInScope .table "caption" then
      closeImplied impliedEnds
      expectToClose "caption"
      clearToMarker
      next
    else unexpected
  match token with
  | .startTag tag =>
    if ["caption", "col", "colgroup", "tbody", "td", "tfoot", "th", "thead", "tr"].contains
        tag.name then
      close (return .again .inTable token)
    else inBody token
  | .endTag tag =>
    if tag.name = "table" then close (return .again .inTable token)
    else if tag.name = "caption" then close (do setMode .inTable; return .done)
    else if ["body", "col", "colgroup", "html", "tbody", "td", "tfoot", "th", "thead",
        "tr"].contains tag.name then
      unexpected
    else inBody token
  | _ => inBody token

def inColumnGroup (token : Token) : Build Outcome := do
  let leave : Build Outcome := do
    if ← isCurrent "colgroup" then
      pop
      return .again .inTable token
    else unexpected
  match token with
  | .char c =>
    if isSpace c then
      insertChar c
      return .done
    else leave
  | .comment =>
    insertComment
    return .done
  | .startTag tag =>
    match tag.name with
    | "html" => inBody token
    | "col" => insertEmpty tag
    | "template" => headStart tag
    | _ => leave
  | .endTag tag =>
    match tag.name with
    | "colgroup" =>
      if ← isCurrent "colgroup" then
        pop
        setMode .inTable
        return .done
      else unexpected
    | "col" => unexpected
    | "template" => templateEnd
    | _ => leave
  | _ => inBody token

end DocStream.Html.Build
