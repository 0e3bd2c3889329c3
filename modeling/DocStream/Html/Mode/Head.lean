import DocStream.Html.Mode.Outcome

/-! Elements that may stand in the head of a document, which body text and templates hand on to
here. -/

namespace DocStream.Html.Build

def endTemplate : Build Unit := do
  closeImplied thoroughImpliedEnds
  expectToClose "template"
  clearToMarker
  modify fun b => { b with templateModes := b.templateModes.drop 1 }
  setMode (← resetMode)

def headStart (tag : Tag) : Build Outcome := do
  match tag.name with
  | "title" => openRaw tag .rcdata
  | "noframes" | "style" => openRaw tag .rawtext
  | "script" => openRaw tag .scriptData
  | "template" =>
    let _ ← openFor tag
    addMarker
    modify fun b => { b with mode := .inTemplate, templateModes := .inTemplate :: b.templateModes }
    return .done
  | _ => insertEmpty tag

def templateEnd : Build Outcome := do
  if (← get).hasOpen "template" then
    endTemplate
    return .done
  else unexpected

def headNames : List String :=
  ["base", "basefont", "bgsound", "link", "meta", "noframes", "script", "style", "template",
   "title"]

end DocStream.Html.Build
