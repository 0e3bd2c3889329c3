import DocStream.Html.Mode.Table

/-! The bodies, rows and cells of tables. A tag that belongs further out closes what is open and
is handed on. -/

namespace DocStream.Html.Build

def bodyContext : List String := ["tbody", "tfoot", "thead", "template", "html"]

def inTableBody (token : Token) : Build Outcome := do
  let leave : Build Outcome := do
    let b ← get
    if b.inScope .table (b.isOneOf ["table", "tbody", "tfoot"]) then
      closeDownTo bodyContext
      pop
      return .again .inTable token
    else unexpected
  match token with
  | .startTag tag =>
    match tag.name with
    | "tr" =>
      closeDownTo bodyContext
      let _ ← openFor tag
      setMode .inRow
      return .done
    | "th" | "td" =>
      fault .unexpectedToken
      closeDownTo bodyContext
      openPhantom "tr"
      return .again .inRow token
    | "caption" | "col" | "colgroup" | "tbody" | "tfoot" | "thead" => leave
    | _ => inTable token
  | .endTag tag =>
    match tag.name with
    | "tbody" | "tfoot" | "thead" =>
      if (← get).nameInScope .table tag.name then
        closeDownTo bodyContext
        pop
        setMode .inTable
        return .done
      else unexpected
    | "table" => leave
    | "body" | "caption" | "col" | "colgroup" | "html" | "td" | "th" | "tr" => unexpected
    | _ => inTable token
  | _ => inTable token

def inRow (token : Token) : Build Outcome := do
  let closeRow : Build Unit := do
    closeDownTo ["tr", "template", "html"]
    pop
  let leave : Build Outcome := do
    if (← get).nameInScope .table "tr" then
      closeRow
      return .again .inTableBody token
    else unexpected
  match token with
  | .startTag tag =>
    match tag.name with
    | "th" | "td" =>
      closeDownTo ["tr", "template", "html"]
      let _ ← openFor tag
      setMode .inCell
      addMarker
      return .done
    | "caption" | "col" | "colgroup" | "tbody" | "tfoot" | "thead" | "tr" => leave
    | _ => inTable token
  | .endTag tag =>
    match tag.name with
    | "tr" =>
      if (← get).nameInScope .table "tr" then
        closeRow
        setMode .inTableBody
        return .done
      else unexpected
    | "table" => leave
    | "tbody" | "tfoot" | "thead" =>
      let b ← get
      if b.nameInScope .table tag.name then
        if b.nameInScope .table "tr" then leave else return .done
      else unexpected
    | "body" | "caption" | "col" | "colgroup" | "html" | "td" | "th" => unexpected
    | _ => inTable token
  | _ => inTable token

def closeCell : Build Unit := do
  closeImplied impliedEnds
  let b ← get
  if (← closeThrough (b.isOneOf ["td", "th"])) ≠ 1 then fault .cellNotCurrent
  clearToMarker

def inCell (token : Token) : Build Outcome := do
  let leave : Build Outcome := do
    closeCell
    return .again .inRow token
  match token with
  | .startTag tag =>
    if ["caption", "col", "colgroup", "tbody", "td", "tfoot", "th", "thead", "tr"].contains
        tag.name then
      let b ← get
      if b.inScope .table (b.isOneOf ["td", "th"]) then leave else unexpected
    else inBody token
  | .endTag tag =>
    match tag.name with
    | "td" | "th" =>
      if (← get).nameInScope .table tag.name then
        closeImplied impliedEnds
        expectToClose tag.name
        clearToMarker
        setMode .inRow
        return .done
      else unexpected
    | "body" | "caption" | "col" | "colgroup" | "html" => unexpected
    | "table" | "tbody" | "tfoot" | "thead" | "tr" =>
      if (← get).nameInScope .table tag.name then leave else unexpected
    | _ => inBody token
  | _ => inBody token

end DocStream.Html.Build
