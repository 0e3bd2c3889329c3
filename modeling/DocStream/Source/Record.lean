import DocStream.Json.Printer
import DocStream.Source

/-! Source documents as they are written down: every block is a record with the same fields,
whatever its kind. A record makes a block unless it is a section without a level, and only the
fields of its kind are looked at. -/

namespace DocStream

structure RecordFields where
  context : String
  level : Option Nat := none
  id : Option String := none
  title : Option String := none
  text : Option String := none
  content : Option String := none
deriving DecidableEq, Inhabited

inductive Record where
  | mk (fields : RecordFields) (blocks : List Record)
deriving Inhabited

structure DocumentRecord where
  attributes : Dictionary Json := ∅
  blocks : List Record := []

structure InvalidRecord where
  context : String
  reason : String
deriving DecidableEq, Repr

def InvalidRecord.message (e : InvalidRecord) : String :=
  "invalid `" ++ e.context ++ "` node: " ++ e.reason

def listContexts : List String := ["olist", "ulist", "colist"]

namespace RecordFields

def kind (f : RecordFields) : Except InvalidRecord BlockKind :=
  if f.context = "section" then
    match f.level with
    | some level => .ok (.sect level f.id (f.title.getD ""))
    | none => .error ⟨f.context, "missing `level`"⟩
  else if listContexts.contains f.context then .ok (.list f.context)
  else if f.context = "list_item" then .ok (.listItem (f.text.getD ""))
  else if f.context = "paragraph" then .ok (.paragraph (f.content.getD ""))
  else .ok (.other f.context)

end RecordFields

namespace Record

mutual

/-- A record is looked at before those inside it. -/
def block : Record → Except InvalidRecord Block
  | mk fields rs =>
    match fields.kind with
    | .error e => .error e
    | .ok k =>
      match blocks rs with
      | .error e => .error e
      | .ok bs => .ok (.mk k bs)

def blocks : List Record → Except InvalidRecord (List Block)
  | [] => .ok []
  | r :: rs =>
    match r.block with
    | .error e => .error e
    | .ok b =>
      match blocks rs with
      | .error e => .error e
      | .ok bs => .ok (b :: bs)

end

end Record

/-- A text stands for itself, `null` for nothing, and any other value for its JSON text. -/
def Json.attributeText : Json → String
  | .string s => s
  | .null => ""
  | v => v.compact

namespace DocumentRecord

def document (d : DocumentRecord) : Except InvalidRecord Document :=
  match Record.blocks d.blocks with
  | .error e => .error e
  | .ok bs =>
    .ok
      { attributes := .ofList (d.attributes.entries.map fun p => (p.1, p.2.attributeText)),
        blocks := bs }

end DocumentRecord

end DocStream
