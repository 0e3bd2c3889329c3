import DocStream.Json.Reader.Basic

/-! Strings, with their escapes and pairs of surrogates. -/

namespace DocStream.Json.Reader

def size (cs : List Char) : Nat := cs.foldl (fun n c => n + c.utf8Size) 0

/-- Four hexadecimal digits; they are four bytes whatever they turn out to be. -/
def hexUnit : Reader Nat := do
  let c ← get
  match c.rest with
  | w :: x :: y :: z :: rest =>
    if [w, x, y, z].all (Text.isDigitIn 16) then
      set (⟨rest, c.offset + 4⟩ : Cursor)
      return Text.natOf 16 [w, x, y, z]
    else failAt (c.offset + 4) .badEscape
  | few =>
    if size few < 4 then failAt (c.offset + size few) .endInString
    else failAt (c.offset + 4) .badEscape

def escaped : Char → Option Char
  | '"' => some '"'
  | '\\' => some '\\'
  | '/' => some '/'
  | 'b' => some '\x08'
  | 'f' => some '\x0c'
  | 'n' => some '\n'
  | 'r' => some '\r'
  | 't' => some '\t'
  | _ => none

def pairMark (x : Char) : Reader Unit := do
  match ← peek with
  | none => failHere .endInString
  | some c => if c = x then skip else failNext .unpairedSurrogate

def unicodeEscape : Reader Char := do
  let n ← hexUnit
  if 0xdc00 ≤ n && n ≤ 0xdfff then failHere .loneSurrogate
  else if 0xd800 ≤ n && n ≤ 0xdbff then
    pairMark '\\'
    pairMark 'u'
    let m ← hexUnit
    if 0xdc00 ≤ m && m ≤ 0xdfff then
      return Char.ofNat ((n - 0xd800) * 0x400 + (m - 0xdc00) + 0x10000)
    else failHere .loneSurrogate
  else return Char.ofNat n

def escapeSequence : Reader Char := do
  match ← peek with
  | none => failHere .endInString
  | some 'u' => skip; unicodeEscape
  | some c =>
    match escaped c with
    | some x => skip; return x
    | none => failNext .badEscape

def skipEscapeSequence : Reader Unit := do
  match ← peek with
  | none => failHere .endInString
  | some 'u' => skip; let _ ← hexUnit
  | some c => if (escaped c).isSome then skip else failNext .badEscape

def textFrom : Nat → Reader (List Char)
  | 0 => failHere .endInString
  | fuel + 1 => do
    match ← peek with
    | none => failHere .endInString
    | some '"' => skip; return []
    | some '\\' =>
      skip
      let c ← escapeSequence
      return c :: (← textFrom fuel)
    | some c =>
      if c.toNat < 0x20 then failNext .controlInString
      else
        skip
        return c :: (← textFrom fuel)

def skipTextFrom : Nat → Reader Unit
  | 0 => failHere .endInString
  | fuel + 1 => do
    match ← peek with
    | none => failHere .endInString
    | some '"' => skip
    | some '\\' =>
      skip
      skipEscapeSequence
      skipTextFrom fuel
    | some c =>
      if c.toNat < 0x20 then failHere .controlInString
      else
        skip
        skipTextFrom fuel

def text : Reader String := do
  return String.ofList (← textFrom ((← get).rest.length + 1))

def skipText : Reader Unit := do
  skipTextFrom ((← get).rest.length + 1)

end DocStream.Json.Reader
