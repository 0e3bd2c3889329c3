import DocStream.Html.Mode.Foreign

/-! Tokens into the tree. Only a document whose body is open is built, so nothing before the body
needs a mode. -/

namespace DocStream.Html.Build

inductive Switch where
  | raw (kind : RawKind)
  | plaintext

def isSelfClosing : Token → Bool
  | .startTag tag => tag.selfClosing
  | _ => false

def settle (token : Token) : (fuel : Nat) → Build (Option Switch)
  | 0 => return none
  | fuel + 1 => do
    let b ← get
    let o ← if isForeign b token then inForeign token else inMode b.mode token
    match o with
    | .done =>
      if isSelfClosing token then fault .unacknowledgedSelfClosing
      return none
    | .acknowledged => return none
    | .again mode token =>
      setMode mode
      settle token fuel
    | .raw kind => return some (.raw kind)
    | .plaintext => return some .plaintext

/-- Takes a token in. Each hand-over closes an element or moves to a mode nearer to body text. -/
def accept (token : Token) : Build (Option Switch) := do
  let b ← get
  set { b with skipNewline := false }
  match token with
  | .fault f =>
    fault f
    return none
  | .doctype =>
    fault .doctypeInBody
    return none
  | .char c =>
    if b.skipNewline && c = '\n' then return none
    else settle token (8 * (b.opened.length + 2))
  | _ => settle token (8 * (b.opened.length + 2))

end DocStream.Html.Build
