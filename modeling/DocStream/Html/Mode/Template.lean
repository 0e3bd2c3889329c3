import DocStream.Html.Mode.Row
import DocStream.Html.Mode.Select

/-! Templates and what follows the body, and with them every mode. -/

namespace DocStream.Html.Build

def inTemplate (token : Token) : Build Outcome := do
  let become (m : Mode) : Build Outcome := do
    modify fun b => { b with templateModes := m :: b.templateModes.drop 1 }
    return .again m token
  match token with
  | .char c => bodyChar c
  | .comment => inBody token
  | .startTag tag =>
    match tag.name with
    | "caption" | "colgroup" | "tbody" | "tfoot" | "thead" => become .inTable
    | "col" => become .inColumnGroup
    | "tr" => become .inTableBody
    | "td" | "th" => become .inRow
    | name => if headNames.contains name then headStart tag else become .inBody
  | .endTag tag => if tag.name = "template" then templateEnd else unexpected
  | .finish => templateFinish
  | .doctype | .fault _ => return .done

def rootComment : Build Outcome := do
  appendNode Builder.rootNode (← newNode .comment)
  return .done

def afterBody (whole : Bool) (token : Token) : Build Outcome := do
  let goBack : Build Outcome := do
    fault .unexpectedToken
    return .again .inBody token
  match token with
  | .char c => if isSpace c then inBody token else goBack
  | .comment => rootComment
  | .startTag tag => if tag.name = "html" then inBody token else goBack
  | .endTag tag =>
    if tag.name = "html" && !whole then
      setMode .afterAfterBody
      return .done
    else goBack
  | _ => return .done

def inMode (mode : Mode) (token : Token) : Build Outcome :=
  match mode with
  | .inBody => inBody token
  | .text => inText token
  | .inTable => inTable token
  | .inTableText => inTableText token
  | .inCaption => inCaption token
  | .inColumnGroup => inColumnGroup token
  | .inTableBody => inTableBody token
  | .inRow => inRow token
  | .inCell => inCell token
  | .inSelect => inSelect token
  | .inSelectInTable => inSelectInTable token
  | .inTemplate => inTemplate token
  | .afterBody => afterBody false token
  | .afterAfterBody => afterBody true token

end DocStream.Html.Build
