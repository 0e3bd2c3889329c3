import DocStream.Html.Mode.BodyStart

/-! End tags and the end of the text in body text, and the whole of that mode. Content that is not
markup is read up to the end tag of its element. -/

namespace DocStream.Html.Build

def closeForm : Build Outcome := do
  let b ← get
  if b.hasOpen "template" then
    if !b.nameInScope .default "form" then fault .formOutOfScope
    else
      closeImplied impliedEnds
      if !(← isCurrent "form") then fault .formNotCurrent
      let _ ← closeThroughNamed "form"
  else
    set { b with form := none }
    match b.form with
    | none => fault .noForm
    | some f =>
      if !b.inScope .default (· = f) then fault .formOutOfScope
      else
        closeImplied impliedEnds
        let current := (← get).current
        removeOpen f
        if current ≠ f then fault .formNotCurrent
  return .done

def closeItem (name : String) : Build Outcome := do
  if (← get).nameInScope (if name = "li" then .listItem else .default) name then
    closeImpliedExcept name
    expectToClose name
  else fault .noListItem
  return .done

def closeHeading (name : String) : Build Outcome := do
  let b ← get
  if b.inScope .default (b.isOneOf headings) then
    closeImplied impliedEnds
    if !(← isCurrent name) then fault .wrongHeading
    let _ ← closeThrough (b.isOneOf headings)
  else fault .noHeading
  return .done

def bodyEnd (tag : Tag) : Build Outcome := do
  match tag.name with
  | "template" => templateEnd
  | "body" =>
    if (← get).nameInScope .default "body" then
      checkBodyEnd
      setMode .afterBody
    else fault .bodyEndOutOfScope
    return .done
  | "html" =>
    if (← get).nameInScope .default "body" then
      checkBodyEnd
      return .again .afterBody (.endTag tag)
    else
      fault .documentEndOutOfScope
      return .done
  | "form" => closeForm
  | "p" =>
    if !(← get).nameInScope .button "p" then
      fault .noParagraph
      openPhantom "p"
    closeParagraph
    return .done
  | "li" | "dd" | "dt" => closeItem tag.name
  | "h1" | "h2" | "h3" | "h4" | "h5" | "h6" => closeHeading tag.name
  | "br" =>
    fault .unexpectedToken
    emptyInline { name := "br" }
  | "applet" | "marquee" | "object" =>
    if (← get).nameInScope .default tag.name then
      closeImplied impliedEnds
      expectToClose tag.name
      clearToMarker
      return .done
    else unexpected
  | name =>
    if blockEndNames.contains name then
      if (← get).nameInScope .default name then
        closeImplied impliedEnds
        expectToClose name
        return .done
      else unexpected
    else
      if name = "a" || name = "nobr" || formattingNames.contains name then closeFormatting name
      else genericEnd name
      return .done

def templateFinish : Build Outcome := do
  if (← get).hasOpen "template" then
    fault .unexpectedToken
    let _ ← closeThroughNamed "template"
    clearToMarker
    modify fun b => { b with templateModes := b.templateModes.drop 1 }
    return .again (← resetMode) .finish
  else return .done

def inBody (token : Token) : Build Outcome := do
  match token with
  | .char c => bodyChar c
  | .comment =>
    insertComment
    return .done
  | .startTag tag => bodyStart tag
  | .endTag tag => bodyEnd tag
  | .finish =>
    if (← get).templateModes.isEmpty then
      checkBodyEnd
      return .done
    else templateFinish
  | .doctype | .fault _ => return .done

def inText (token : Token) : Build Outcome := do
  match token with
  | .char c =>
    insertChar c
    return .done
  | .finish =>
    fault .unexpectedToken
    pop
    return .again (← get).returnMode token
  | _ =>
    pop
    modify fun b => { b with mode := b.returnMode }
    return .done

end DocStream.Html.Build
