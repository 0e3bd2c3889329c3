import DocStream.Proofs.JsonReadback
import DocStream.Rendering

/-! Events read back from JSON. An event is recovered whole from the object or the name that it is
written as, in whatever order its members come, so the array that a stream is printed as determines
the stream. -/

namespace DocStream

namespace Json

def member? (key : String) : Json → Option Json
  | object members => members.lookup key
  | _ => none

def string? : Json → Option String
  | string s => some s
  | _ => none

def bool? : Json → Option Bool
  | bool b => some b
  | _ => none

def word? : Json → Option Nat
  | number (.integer (.ofNat n)) => some n
  | _ => none

def optional? {α : Type} (item? : Json → Option α) : Json → Option (Option α)
  | null => some none
  | v => (item? v).map some

def choice? {α : Type} (name : α → String) (choices : List α) (v : Json) : Option α := do
  let s ← v.string?
  choices.find? (name · = s)

end Json

open Json

def ResourceKind.all : List ResourceKind := [url, path, mailto, document, unspecified]

def ListKind.all : List ListKind := [ordered, unordered]

def Style.all : List Style :=
  [bold, italic, monospace, superscript, subscript, underlined, strikedout]

def Reference.parametersOf : Option Json → Option (Dictionary String)
  | none => some ∅
  | some (.object members) => do
    let entries ← members.mapM fun m => do return (m.1, ← m.2.string?)
    return .ofList entries
  | some _ => none

def Reference.ofJson? (v : Json) : Option Reference := do
  let kind ← (← v.member? "kind").choice? ResourceKind.name ResourceKind.all
  let target ← (← v.member? "target").string?
  let typed ← (← v.member? "typed").bool?
  let parameters ← parametersOf (v.member? "parameters")
  return { kind, target, typed, parameters }

def Container.ofContent? : (kind : String) → Option Json → Option Container
  | "Document", some v => do
    return document (← (← v.member? "syntax").choice? Dialect.id Dialect.all)
  | "Section", none => some sect
  | "Header", some v => do
    return header (← (← v.member? "level").word?) (← (← v.member? "id").optional? string?)
  | "List", some v => do return list (← v.choice? ListKind.name ListKind.all)
  | "ListItem", none => some listItem
  | "Paragraph", none => some paragraph
  | "Format", some v => do return format (← v.choice? Style.name Style.all)
  | "Link", some v => do
    return link ⟨← Reference.ofJson? (← v.member? "reference"),
      ← (← v.member? "free_standing").bool?⟩
  | _, _ => none

def Container.kinds : List String :=
  ["Document", "Section", "Header", "List", "ListItem", "Paragraph", "Format", "Link"]

def Event.ofContent? (name : String) (content : Option Json) : Option Event :=
  if name = "RawText" then content.bind fun v => v.string?.map text
  else if name = "NewLine" then if content.isNone then some lineBreak else none
  else
    match Container.kinds.find? (name = "Begin" ++ ·),
      Container.kinds.find? (name = "End" ++ ·) with
    | some kind, _ => (Container.ofContent? kind content).map opening
    | none, some kind => (Container.ofContent? kind content).map closing
    | none, none => none

def Event.ofJson? : Json → Option Event
  | .string name => ofContent? name none
  | .object [(name, v)] => ofContent? name (some v)
  | _ => none

/-! ### Members in another order -/

theorem Json.member?_sorted (key : String) (members : List (String × Json)) :
    (Json.object members).sorted.member? key = (sortedMembers members).reverse.lookup key :=
  Dictionary.get?_ofList key _

theorem Reference.parametersOf_sorted (d : Dictionary String) :
    parametersOf (some (Json.object (d.map Json.string).entries).sorted) = some d := by
  have hsorted : sortedMembers (d.map Json.string).entries = (d.map Json.string).entries := by
    rw [sortedMembers_eq_map, Dictionary.map, List.map_map]
    rfl
  have hentries : (d.map Json.string).entries.mapM
      (fun m => do return (m.1, ← m.2.string?) : String × Json → Option (String × String)) =
        some d.entries := by
    rw [Dictionary.map, List.mapM_map]
    exact List.mapM_pure.trans (congrArg some (List.map_id _))
  rw [sorted, hsorted, Dictionary.ofList_entries, parametersOf, hentries]
  exact congrArg some (Dictionary.ofList_entries d)

theorem Reference.ofJson?_sorted (r : Reference) : ofJson? r.json.sorted = some r := by
  obtain ⟨kind, target, typed, parameters⟩ := r
  have hkind : (Json.string kind.name).choice? ResourceKind.name ResourceKind.all = some kind := by
    cases kind <;> rfl
  rw [json]
  cases h : parameters.isEmpty with
  | true =>
    have hempty : parameters = ∅ := Dictionary.ext_entries (List.isEmpty_iff.1 h)
    simp only [ofJson?, Json.member?_sorted, if_true, List.append_nil]
    change (do
      let kind ← (Json.string kind.name).choice? ResourceKind.name ResourceKind.all
      return (⟨kind, target, typed, ∅⟩ : Reference)) = _
    rw [hkind, hempty]
    rfl
  | false =>
    have hparameters := parametersOf_sorted parameters
    simp only [ofJson?, Json.member?_sorted, Bool.false_eq_true, if_false]
    change (do
      let kind ← (Json.string kind.name).choice? ResourceKind.name ResourceKind.all
      let parameters ← parametersOf (some (Json.object (parameters.map Json.string).entries).sorted)
      return (⟨kind, target, typed, parameters⟩ : Reference)) = _
    rw [hkind, hparameters]
    rfl

theorem Container.ofContent?_sorted (c : Container) :
    ofContent? c.name (c.json.map Json.sorted) = some c := by
  cases c with
  | document d => cases d <;> rfl
  | sect => rfl
  | header level id =>
    change (do
      let level ← (← (Json.object _).sorted.member? "level").word?
      let id ← (← (Json.object _).sorted.member? "id").optional? string?
      return header level id) = _
    simp only [Json.member?_sorted]
    cases id <;> rfl
  | list kind => cases kind <;> rfl
  | listItem => rfl
  | paragraph => rfl
  | format style => cases style <;> rfl
  | link l =>
    change (do
      let reference ← Reference.ofJson? (← (Json.object _).sorted.member? "reference")
      let freeStanding ← (← (Json.object _).sorted.member? "free_standing").bool?
      return link ⟨reference, freeStanding⟩) = _
    simp only [Json.member?_sorted]
    change (do
      let reference ← Reference.ofJson? l.reference.json.sorted
      return link ⟨reference, l.freeStanding⟩) = _
    rw [l.reference.ofJson?_sorted]
    rfl

theorem Event.ofContent?_opening (c : Container) (content : Option Json) :
    ofContent? ("Begin" ++ c.name) content = (Container.ofContent? c.name content).map opening := by
  cases c <;> rfl

theorem Event.ofContent?_closing (c : Container) (content : Option Json) :
    ofContent? ("End" ++ c.name) content = (Container.ofContent? c.name content).map closing := by
  cases c <;> rfl

theorem Event.ofJson?_sorted (e : Event) : ofJson? e.json.sorted = some e := by
  have hcontent : ofJson? e.json.sorted = ofContent? e.name (e.content.map Json.sorted) := by
    rw [json]
    cases e.content <;> rfl
  rw [hcontent]
  cases e with
  | opening c => rw [name, content, ofContent?_opening, c.ofContent?_sorted, Option.map_some]
  | closing c => rw [name, content, ofContent?_closing, c.ofContent?_sorted, Option.map_some]
  | text s => rfl
  | lineBreak => rfl

/-! ### Streams -/

def Container.FitsWord : Container → Prop
  | header level _ => level ≤ Json.Reader.maxWord
  | _ => True

def Event.FitsWord : Event → Prop
  | opening c => c.FitsWord
  | closing c => c.FitsWord
  | _ => True

theorem Reference.fits_json (r : Reference) (depth : Nat) : r.json.Fits (depth + 3) := by
  have hparameters : (Json.object (r.parameters.entries.map fun p => (p.1, .string p.2))).Fits
      (depth + 2) := by
    refine .object ?_
    rw [List.forall_mem_map]
    exact fun p _ => .string depth p.2
  refine .object ?_
  rw [List.forall_mem_append]
  constructor
  · simp only [List.forall_mem_cons]
    exact ⟨.string _ _, .string _ _, .bool _ _, nofun⟩
  · split
    · exact nofun
    · exact List.forall_mem_singleton.2 hparameters

theorem Container.fits_json {c : Container} (hc : c.FitsWord) (depth : Nat) :
    ∀ v ∈ c.json, v.Fits (depth + 4) := by
  have hmembers {k k' : String} {v v' : Json} (hv : v.Fits (depth + 3))
      (hv' : v'.Fits (depth + 3)) :
      (Json.object [(k, v), (k', v')]).Fits (depth + 4) := by
    refine .object ?_
    simp only [List.forall_mem_cons]
    exact ⟨hv, hv', nofun⟩
  cases c with
  | document d => exact fun _ hv => Option.some.inj hv ▸ .object (by simpa using .string _ d.id)
  | sect => exact nofun
  | header level id =>
    have hid : ((id.map Json.string).getD .null).Fits (depth + 3) := by
      cases id with
      | none => exact .null _
      | some id => exact .string _ id
    exact fun _ hv => Option.some.inj hv ▸ hmembers (.word _ hc) hid
  | list kind => exact fun _ hv => Option.some.inj hv ▸ .string _ kind.name
  | listItem => exact nofun
  | paragraph => exact nofun
  | format style => exact fun _ hv => Option.some.inj hv ▸ .string _ style.name
  | link l =>
    exact fun _ hv => Option.some.inj hv ▸ hmembers (l.reference.fits_json depth) (.bool _ _)

theorem Event.fits_json {e : Event} (he : e.FitsWord) (depth : Nat) : e.json.Fits (depth + 5) := by
  have hcontent : ∀ v ∈ e.content, v.Fits (depth + 4) := by
    cases e with
    | opening c => exact c.fits_json he depth
    | closing c => exact c.fits_json he depth
    | text s => exact fun _ hv => Option.some.inj hv ▸ .string _ s
    | lineBreak => exact nofun
  rw [json]
  cases h : e.content with
  | none => exact .string _ e.name
  | some v => exact .object (List.forall_mem_singleton.2 (hcontent v h))

theorem read_render {es : List Event} (hes : ∀ e ∈ es, e.FitsWord) :
    Json.read (render .json es) = .ok (.array (es.map fun e => e.json.sorted)) := by
  have hfits : (Json.array (es.map Event.json)).Fits 128 := by
    refine .array ?_
    rw [List.forall_mem_map]
    exact fun e he => Event.fits_json (hes e he) 122
  have hblank : Json.Blank ['\n'] := by simp [Json.Blank, Json.Reader.isSpace]
  have hwritten : (Json.array (es.map Event.json)).WrittenAs (render .json es) :=
    ⟨[], _, ['\n'], Json.blank_nil, Json.layout_prettyChars 0 _, hblank, by
      simp [render, Json.pretty]⟩
  rw [Json.read_of_writtenAs hfits hwritten, sorted, sortedItems_eq_map, List.map_map]
  rfl

/-- The JSON of a stream is an array of as many values as there are events, each of which its event
is read back from; so no other stream is printed alike. -/
theorem render_json_lossless {es : List Event} (hes : ∀ e ∈ es, e.FitsWord) :
    (∃ items, Json.read (render .json es) = .ok (.array items) ∧
      List.Forall₂ (fun v e => Event.ofJson? v = some e) items es) ∧
    ∀ others : List Event, (∀ e ∈ others, e.FitsWord) →
      render .json others = render .json es → others = es := by
  have hread {es : List Event} (hes : ∀ e ∈ es, e.FitsWord) :
      ∃ items, Json.read (render .json es) = .ok (.array items) ∧
        List.Forall₂ (fun v e => Event.ofJson? v = some e) items es := by
    refine ⟨_, read_render hes, List.forall₂_map_left_iff.2 (List.forall₂_same.2 ?_)⟩
    exact fun e _ => e.ofJson?_sorted
  refine ⟨hread hes, fun others hothers heq => ?_⟩
  obtain ⟨items, hitems, hes⟩ := hread hes
  obtain ⟨items', hitems', hothers⟩ := hread hothers
  rw [heq, hitems] at hitems'
  cases hitems'
  -- Both streams are read back from the same values, and of each of these there is one event.
  have hunique : Relator.RightUnique fun v e => Event.ofJson? v = some e :=
    fun v e e' he he' => Option.some.inj (he.symm.trans he')
  exact hunique.forall₂ hothers hes

theorem render_json_lossless_link :
    let reference : Reference :=
      { kind := .mailto, target := "a@b", typed := false, parameters := .ofList [("x", "\n")] }
    let es : List Event :=
      [.opening (.header 18446744073709551615 none), .closing (.link ⟨reference, true⟩),
        .text "\"\\\x00é", .lineBreak]
    (∀ e ∈ es, e.FitsWord) ∧
      ∃ items, Json.read (render .json es) = .ok (.array items) ∧
        List.Forall₂ (fun v e => Event.ofJson? v = some e) items es := by
  intro reference es
  have hes : ∀ e ∈ es, e.FitsWord := by
    simp [es, Event.FitsWord, Container.FitsWord, Json.Reader.maxWord]
  exact ⟨hes, (render_json_lossless hes).1⟩

end DocStream
