import DocStream.Config.Fault
import DocStream.Rendering
import DocStream.Translator

/-! What a user can set about events and output, and how it is read off a tree of settings.
Booleans, numbers and names are read generously: as words, as numbers, in capitals. -/

namespace DocStream

structure Config where
  wikiMode : Bool
  dialect : Dialect
  maxDepth : Nat
  strict : Bool
  format : OutputFormat
deriving DecidableEq

namespace Config

def found : Setting → Found
  | .scalar _ v => .scalar v
  | .list .. => .list
  | .table .. => .table

def wrongType {α : Type} (s : Setting) (f : Found) (expected key : String) : Except Fault α :=
  throw (.wrongType f expected key s.origin)

def trueWords : List String := ["true", "on", "yes"]

def falseWords : List String := ["false", "off", "no"]

/-- Any number but zero is true. A word that is neither true nor false is reported in small
letters. -/
def readBool (key : String) (s : Setting) : Except Fault Bool :=
  match s with
  | .scalar _ (.bool b) => return b
  | .scalar _ (.integer n) => return n ≠ 0
  | .scalar _ (.real x) => return !x.isZero
  | .scalar _ (.text w) =>
    let w := Text.lower w
    if w = "1" || trueWords.contains w then return true
    else if w = "0" || falseWords.contains w then return false
    else wrongType s (.scalar (.text w)) "a boolean" key
  | s => wrongType s (found s) "a boolean" key

def maxWord : Nat := Nat.pow 2 64 - 1

def wordOf (s : String) : Option Nat :=
  let cs := s.toList
  let cs := if cs.head? = some '+' then cs.tail else cs
  if cs.isEmpty || !cs.all Char.isDigit then none
  else
    let n := Text.natOf 10 cs
    if n ≤ maxWord then some n else none

/-- A number that is not negative; a fraction is rounded, and what is out of range brought into
it. -/
def readWord (key : String) (s : Setting) : Except Fault Nat :=
  match s with
  | .scalar _ (.bool b) => return b.toNat
  | .scalar _ (.integer (.ofNat n)) => return n
  | .scalar _ (.integer _) => wrongType s (found s) "an unsigned 64 bit or less integer" key
  | .scalar _ (.real x) => return x.clamp maxWord
  | .scalar _ (.text w) =>
    let small := Text.lower w
    if trueWords.contains small then return 1
    else if falseWords.contains small then return 0
    else
      match wordOf w with
      | some n => return n
      | none => wrongType s (found s) "an integer" key
  | s => wrongType s (found s) "an integer" key

def readChoice {α : Type} (name : String) (choices : List (String × α)) (s : Setting) :
    Except Fault α :=
  let named (w : String) : Except Fault α :=
    match choices.find? fun c => Text.lower c.1 = Text.lower w with
    | some c => return c.2
    | none => throw (.unknownChoice w name)
  match s with
  | .scalar _ (.text w) => named w
  | .table _ [(w, _)] => named w
  | _ => throw (.noChoice name)

/-! ### Sections -/

structure Section where
  key : String
  name : String
  keys : List String

def translateSection : Section :=
  ⟨"translate", "TranslateConfig", ["wiki_mode", "syntax", "max_depth"]⟩

def fragmentSection : Section := ⟨"fragment", "FragmentConfig", ["strict"]⟩

def outputSection : Section := ⟨"output", "OutputConfig", ["format"]⟩

def Section.read {α : Type} (c : Section) (part : Setting) (key : String)
    (value : String → Setting → Except Fault α) : Except Fault α :=
  match part with
  | .scalar _ v => throw (.wrongSection v c.name)
  | .list _ items =>
    let i := c.keys.idxOf key
    match items[i]? with
    | some s => value (c.key ++ "[" ++ toString i ++ "]") s
    | none => throw (.shortSection i c.keys.length c.name)
  | .table _ es =>
    match es.lookup key with
    | some s => value (c.key ++ "." ++ key) s
    | none => throw (.missingKey key)

def part (root : Setting) (c : Section) : Except Fault Setting :=
  match root.entries.lookup c.key with
  | some s => return s
  | none => throw (.missingKey c.key)

def ofSetting (root : Setting) : Except Fault Config := do
  let translate ← part root translateSection
  let wikiMode ← translateSection.read translate "wiki_mode" readBool
  let dialect ← translateSection.read translate "syntax" fun _ =>
    readChoice "Syntax" (Dialect.all.map fun d => (d.id, d))
  let maxDepth ← translateSection.read translate "max_depth" readWord
  let strict ← fragmentSection.read (← part root fragmentSection) "strict" readBool
  let format ← outputSection.read (← part root outputSection) "format" fun _ =>
    readChoice "OutputFormat" [("text", .text), ("json", .json)]
  return { wikiMode, dialect, maxDepth, strict, format }

end Config

end DocStream
