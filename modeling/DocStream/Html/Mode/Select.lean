import DocStream.Html.Mode.Body

/-! A choice of options, which takes text and options only. In a table, a part of the table ends
the choice. -/

namespace DocStream.Html.Build

def popIfCurrent (name : String) : Build Unit := do
  if ← isCurrent name then pop

def leaveSelect : Build Bool := do
  if (← get).nameInScope .select "select" then
    let _ ← closeThroughNamed "select"
    return true
  else return false

def selectStart (tag : Tag) : Build Outcome := do
  match tag.name with
  | "html" => bodyStart tag
  | "option" =>
    popIfCurrent "option"
    let _ ← openFor tag
    return .done
  | "optgroup" =>
    popIfCurrent "option"
    popIfCurrent "optgroup"
    let _ ← openFor tag
    return .done
  | "hr" =>
    popIfCurrent "option"
    popIfCurrent "optgroup"
    insertEmpty tag
  | "select" =>
    fault .unexpectedToken
    if ← leaveSelect then setMode (← resetMode)
    return .done
  | "input" | "keygen" | "textarea" =>
    fault .unexpectedToken
    if ← leaveSelect then return .again (← resetMode) (.startTag tag)
    else return .done
  | "script" | "template" => headStart tag
  | _ => unexpected

def selectEnd (tag : Tag) : Build Outcome := do
  match tag.name with
  | "optgroup" =>
    let b ← get
    if b.isNamed "option" b.current && (b.opened.drop 1).head?.any (b.isNamed "optgroup") then pop
    if ← isCurrent "optgroup" then
      pop
      return .done
    else unexpected
  | "option" =>
    if ← isCurrent "option" then
      pop
      return .done
    else unexpected
  | "select" =>
    if ← leaveSelect then
      setMode (← resetMode)
      return .done
    else unexpected
  | "template" => templateEnd
  | _ => unexpected

def inSelect (token : Token) : Build Outcome := do
  match token with
  | .char c =>
    if c = '\x00' then unexpected
    else
      insertChar c
      return .done
  | .comment =>
    insertComment
    return .done
  | .startTag tag => selectStart tag
  | .endTag tag => selectEnd tag
  | _ => inBody token

def tableEdges : List String := ["caption", "table", "tbody", "tfoot", "thead", "tr", "td", "th"]

def inSelectInTable (token : Token) : Build Outcome := do
  match token with
  | .startTag tag =>
    if tableEdges.contains tag.name then
      fault .unexpectedToken
      let _ ← closeThroughNamed "select"
      return .again (← resetMode) token
    else inSelect token
  | .endTag tag =>
    if tableEdges.contains tag.name then
      fault .unexpectedToken
      if (← get).nameInScope .table tag.name then
        let _ ← closeThroughNamed "select"
        return .again (← resetMode) token
      else return .done
    else inSelect token
  | _ => inSelect token

end DocStream.Html.Build
