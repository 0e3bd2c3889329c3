import DocStream.Json.Reader
import DocStream.Source.Record

/-! Source documents in JSON. Records are objects with named fields or arrays with positions; fields
with names of no meaning are passed over. The brackets of the whole text nest at most 127 deep where
their content matters. -/

namespace DocStream

open Json (Reader Cursor)
open Json.Reader

namespace Source

/-- Fails behind the closing bracket when that comes next, and behind white space otherwise. -/
def failBehind {α : Type} (bracket : Char) (cause : Json.Cause) : Reader α := do
  if (← peekToken) = some bracket then skip
  failHere cause

def fieldsFrom {σ : Type} (field : σ → String → Reader σ) :
    (fuel : Nat) → (first : Bool) → σ → Reader σ
  | 0, _, _ => failHere .endInObject
  | fuel + 1, first, s => do
    match ← nextKey first with
    | none => return s
    | some k => fieldsFrom field fuel false (← field s k)

def once {α : Type} (name : String) (old : Option α) (item : Reader α) : Reader (Option α) := do
  if old.isSome then failBehind '\x7d' (.duplicateField name)
  colon
  return some (← item)

def ignored : Reader Unit := do
  colon
  skipValue

def composite {α : Type} (depth : Nat) (expected : String) (named positioned : Reader α) :
    Reader α := do
  match ← peekToken with
  | none => failNext .endInValue
  | some '\x7b' =>
    if depth ≤ 1 then failNext .tooDeep
    skip
    named
  | some '[' =>
    if depth ≤ 1 then failNext .tooDeep
    skip
    positioned
  | some _ => wrongType expected

def element {α : Type} (index : Nat) (expected : String) (item : Reader α) : Reader α := do
  if ← nextElement (index == 0) then item
  else failBehind ']' (.wrongLength index expected)

def elementOr {α : Type} (index : Nat) (default : α) (item : Reader α) : Reader α := do
  if ← nextElement (index == 0) then item else return default

structure RecordDraft where
  context : Option String := none
  level : Option (Option Nat) := none
  id : Option (Option String) := none
  title : Option (Option String) := none
  text : Option (Option String) := none
  content : Option (Option String) := none
  blocks : Option (List Record) := none

def recordField (blocks : Reader (List Record)) (d : RecordDraft) (key : String) :
    Reader RecordDraft := do
  match key with
  | "context" => return { d with context := ← once key d.context string }
  | "level" => return { d with level := ← once key d.level (optional word) }
  | "id" => return { d with id := ← once key d.id (optional string) }
  | "title" => return { d with title := ← once key d.title (optional string) }
  | "text" => return { d with text := ← once key d.text (optional string) }
  | "content" => return { d with content := ← once key d.content (optional string) }
  | "blocks" => return { d with blocks := ← once key d.blocks blocks }
  | _ => ignored; return d

def namedRecord (blocks : Reader (List Record)) : Reader Record := do
  let d ← fieldsFrom (recordField blocks) ((← get).rest.length + 1) true {}
  match d.context with
  | none => failBehind '\x7d' (.missingField "context")
  | some context =>
    skip
    return .mk
      { context, level := d.level.join, id := d.id.join, title := d.title.join,
        text := d.text.join, content := d.content.join }
      (d.blocks.getD [])

def recordShape : String := "struct RawNode with 7 elements"

def positionedRecord (blocks : Reader (List Record)) : Reader Record := do
  let context ← element 0 recordShape string
  let level ← element 1 recordShape (optional word)
  let id ← element 2 recordShape (optional string)
  let title ← element 3 recordShape (optional string)
  let text ← element 4 recordShape (optional string)
  let content ← element 5 recordShape (optional string)
  let bs ← elementOr 6 [] blocks
  closeList
  return .mk { context, level, id, title, text, content } bs

def recordWith (depth : Nat) (blocks : Reader (List Record)) : Reader Record :=
  composite depth "struct RawNode" (namedRecord blocks) (positionedRecord blocks)

/-- A record and its list of blocks take a bracket each. -/
def record : (depth : Nat) → Reader Record
  | 0 => recordWith 0 (failNext .tooDeep)
  | 1 => recordWith 1 (failNext .tooDeep)
  | depth + 2 => recordWith (depth + 2) (sequence (depth + 1) (record depth))

structure DocumentDraft where
  attributes : Option (List (String × Json)) := none
  blocks : Option (List Record) := none

def nestingLimit : Nat := 128

def attributes : Reader (List (String × Json)) := map (nestingLimit - 1) (value (nestingLimit - 2))

def records : Reader (List Record) := sequence (nestingLimit - 1) (record (nestingLimit - 2))

def documentField (d : DocumentDraft) (key : String) : Reader DocumentDraft := do
  match key with
  | "attributes" => return { d with attributes := ← once key d.attributes attributes }
  | "blocks" => return { d with blocks := ← once key d.blocks records }
  | _ => ignored; return d

def namedDocument : Reader DocumentRecord := do
  let d ← fieldsFrom documentField ((← get).rest.length + 1) true {}
  skip
  return ⟨.ofList (d.attributes.getD []), d.blocks.getD []⟩

def positionedDocument : Reader DocumentRecord := do
  let as ← elementOr 0 [] attributes
  let bs ← elementOr 1 [] records
  closeList
  return ⟨.ofList as, bs⟩

def documentRecord : Reader DocumentRecord := do
  let d ← composite nestingLimit "struct RawDocument" namedDocument positionedDocument
  finish
  return d

inductive Error where
  | json (fault : Json.Fault) (text : String)
  | invalid (error : InvalidRecord)

namespace Error

def message : Error → String
  | json fault text => "invalid source tree: " ++ fault.message text
  | invalid e => e.message

end Error

def read (text : String) : Except Error Document :=
  match documentRecord ⟨text.toList, 0⟩ with
  | .error fault => .error (.json fault text)
  | .ok (d, _) =>
    match d.document with
    | .error e => .error (.invalid e)
    | .ok d => .ok d

end Source

end DocStream
