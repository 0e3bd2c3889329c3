import DocStream.Event
import DocStream.Json.Value

/-! Events as JSON. An event without content is its name; any other is an object whose one member,
under the name, holds the content. -/

namespace DocStream

namespace Reference

def json (r : Reference) : Json :=
  .object <|
    [("kind", .string r.kind.name), ("target", .string r.target), ("typed", .bool r.typed)] ++
      if r.parameters.isEmpty then []
      else [("parameters", .object (r.parameters.entries.map fun p => (p.1, .string p.2)))]

end Reference

namespace Container

def json : Container → Option Json
  | document d => some (.object [("syntax", .string d.id)])
  | sect => none
  | header level id =>
    some (.object [("level", .number (.integer level)), ("id", (id.map Json.string).getD .null)])
  | list k => some (.string k.name)
  | listItem => none
  | paragraph => none
  | format s => some (.string s.name)
  | link l =>
    some (.object [("reference", l.reference.json), ("free_standing", .bool l.freeStanding)])

end Container

namespace Event

def content : Event → Option Json
  | opening c => c.json
  | closing c => c.json
  | text s => some (.string s)
  | lineBreak => none

def json (e : Event) : Json :=
  match e.content with
  | some v => .object [(e.name, v)]
  | none => .string e.name

end Event

end DocStream
