import DocStream.Proofs.JsonLayout
import DocStream.Proofs.RecordForm
import DocStream.Source.Reader

/-! Documents read back from the objects they are written as, whatever the layout. Every level of
blocks takes two brackets, one of the blocks themselves and one of the list they are in, so a tree
of blocks is refused when it is higher than half the brackets allowed for it. -/

namespace DocStream

open Json (Reader Cause Layout Blank Delimited Row Member)

/-! ### Records as objects -/

namespace Outline

mutual

def height : Outline → Nat
  | mk _ children => heights children + 1

def heights : List Outline → Nat
  | [] => 0
  | o :: os => max o.height (heights os)

end

end Outline

def Json.given {α : Type} (key : String) (form : α → Json) (a : Option α) : List (String × Json) :=
  (a.map fun a => (key, form a)).toList

namespace RecordFields

def FitsWord (f : RecordFields) : Prop := ∀ level ∈ f.level, level ≤ Json.Reader.maxWord

def members (f : RecordFields) : List (String × Json) :=
  [("context", .string f.context)] ++
    Json.given "level" (fun n : Nat => .number (.integer n)) f.level ++
    Json.given "id" .string f.id ++ Json.given "title" .string f.title ++
    Json.given "text" .string f.text ++ Json.given "content" .string f.content

end RecordFields

namespace Record

/-- A list of blocks without any is left out. -/
def blocksMember : List Json → List (String × Json)
  | [] => []
  | items => [("blocks", .array items)]

mutual

def json : Record → Json
  | mk f rs => .object (f.members ++ blocksMember (jsons rs))

def jsons : List Record → List Json
  | [] => []
  | r :: rs => r.json :: jsons rs

end

end Record

def DocumentRecord.json (d : DocumentRecord) : Json :=
  .object [("attributes", .object d.attributes.entries), ("blocks", .array (Record.jsons d.blocks))]

namespace Source
open Json.Reader

/-! ### Objects with named fields -/

section
variable {α β σ : Type} {field : σ → String → Reader σ} {s : σ}

/-- What the reader of a field makes of a member, behind its key and on every layout. -/
def FieldReads (field : σ → String → Reader σ) (s : σ) (m : String × Json) (r : Except Cause σ) :
    Prop :=
  ∀ ws ws' text rest offset, Blank ws → Blank ws' → Layout m.2 text → Delimited rest →
    Ends rest r (field s m.1 ⟨ws ++ ':' :: (ws' ++ (text ++ rest)), offset⟩)

inductive FieldsRead (field : σ → String → Reader σ) :
    σ → List (String × Json) → Except Cause σ → Prop where
  | nil (s : σ) : FieldsRead field s [] (.ok s)
  | cons {s s' : σ} {m : String × Json} {ms : List (String × Json)} {r : Except Cause σ}
      (hm : FieldReads field s m (.ok s')) (hms : FieldsRead field s' ms r) :
    FieldsRead field s (m :: ms) r
  | refused {s : σ} {m : String × Json} {cause : Cause} (hm : FieldReads field s m (.error cause))
      (ms : List (String × Json)) : FieldsRead field s (m :: ms) (.error cause)

theorem FieldsRead.single {m : String × Json} {r : Except Cause σ} (h : FieldReads field s m r) :
    FieldsRead field s [m] r := by
  cases r with
  | ok s' => exact .cons h (.nil s')
  | error cause => exact .refused h []

theorem fieldReads_once {key : String} {item : Reader α} (set : Option α → σ)
    (hfield : field s key = once key none item >>= fun a => pure (set a)) {v : Json}
    {r : Except Cause α} (hitem : Reads item v r) :
    FieldReads field s (key, v) (r.map fun a => set (some a)) := by
  intro ws ws' text rest offset hws hws' htext hrest
  have hfirst : field s key = colon >>= fun _ => item >>= fun a => pure (set (some a)) := by
    simp [hfield, once]
  have hvalue := hitem text htext ws' rest (offset + ws.length + ':'.utf8Size) hws' hrest
  rw [hfirst, bind_of_ok (colon_blank hws _ _)]
  exact hvalue.map fun a offset' => ⟨offset', rfl⟩

theorem FieldsRead.given {key : String} {item : Reader α} (set : Option (Option α) → σ)
    (hfield : field (set none) key = once key none (optional item) >>= fun a => pure (set a))
    {form : α → Json} {a : Option α}
    (hitem : ∀ x ∈ a, Reads (optional item) (form x) (.ok (some x))) {ms : List (String × Json)}
    {r : Except Cause σ} (hms : FieldsRead field (set (a.map some)) ms r) :
    FieldsRead field (set none) (Json.given key form a ++ ms) r := by
  cases a with
  | none => exact hms
  | some x => exact .cons (fieldReads_once set hfield (hitem x rfl)) hms

theorem ends_fieldsFrom {members : List (String × Json)} {r : Except Cause σ}
    (h : FieldsRead field s members r) {texts : List (List Char)}
    (htexts : List.Forall₂ (Member Layout) members texts) {first : Bool} {body : List Char}
    (hbody : Row first texts body) (fuel : Nat) (rest : List Char) (offset : Nat) :
    Ends ('\x7d' :: rest) r
      (fieldsFrom field (texts.length + fuel + 1) first s ⟨body ++ '\x7d' :: rest, offset⟩) := by
  -- A member is the key up to the colon, which `nextKey` takes, and its value, left to the field.
  have hmember {m : String × Json} {text : List Char} {texts : List (List Char)} {first : Bool}
      {body : List Char} {s : σ} {r : Except Cause σ} (hm : Member Layout m text)
      (hbody : Row first (text :: texts) body) (hfield : FieldReads field s m r) (offset : Nat) :
      ∃ cs c, Row false texts cs ∧
        nextKey first ⟨body ++ '\x7d' :: rest, offset⟩ = .ok (some m.1, c) ∧
        Ends (cs ++ '\x7d' :: rest) r (field s m.1 c) := by
    cases hm with
    | @mk key v ws ws' text hws hws' htext =>
      obtain ⟨cs, hcs, hnext⟩ := nextKey_member hbody
      obtain ⟨offset', hnext⟩ := hnext ('\x7d' :: rest) offset
      have hdelimited : Delimited (cs ++ '\x7d' :: rest) :=
        hcs.delimited (Json.delimited_cons (by decide) _)
      refine ⟨cs, _, hcs, hnext, ?_⟩
      simp only [List.append_assoc, List.cons_append]
      exact hfield ws ws' text _ offset' hws hws' htext hdelimited
  induction h generalizing texts first body offset with
  | nil s =>
    cases htexts
    obtain ⟨offset', hnext⟩ := nextKey_close hbody rest offset
    rw [fieldsFrom, bind_of_ok hnext]
    exact .ok s offset'
  | @cons s s' m ms r hm hms ih =>
    cases htexts with
    | @cons _ text _ texts htext htexts =>
      obtain ⟨cs, c, hcs, hnext, hends⟩ := hmember htext hbody hm offset
      have hfuel : texts.length + 1 + fuel = texts.length + fuel + 1 := by omega
      rw [List.length_cons, hfuel, fieldsFrom, bind_of_ok hnext]
      refine hends.bind (s := fun _ => r) fun a offset' ha => ?_
      cases ha
      exact ih htexts hcs offset'
  | @refused s m cause hm ms =>
    cases htexts with
    | @cons _ text _ texts htext htexts =>
      obtain ⟨cs, c, -, hnext, hends⟩ := hmember htext hbody hm offset
      rw [fieldsFrom, bind_of_ok hnext]
      exact hends.bind (s := fun _ => .error cause) nofun

variable {named positioned : Reader α} {expected : String} {depth : Nat}

theorem composite_open {ws : List Char} (hws : Blank ws) (hdepth : 1 < depth) (cs : List Char)
    (offset : Nat) :
    composite depth expected named positioned ⟨ws ++ '\x7b' :: cs, offset⟩ =
      named ⟨cs, offset + ws.length + '\x7b'.utf8Size⟩ := by
  rw [composite, bind_of_ok (peekToken_blank hws (by decide) _ offset)]
  change (if depth ≤ 1 then _ else _ : Reader α) _ = _
  rw [if_neg (Nat.not_le.2 hdepth)]
  rfl

theorem composite_deep (expected : String) (named positioned : Reader α) {ws : List Char}
    (hws : Blank ws) (hdepth : depth ≤ 1) (cs : List Char) (offset : Nat) :
    ∃ offset', composite depth expected named positioned ⟨ws ++ '\x7b' :: cs, offset⟩ =
      .error ⟨.tooDeep, offset'⟩ := by
  refine ⟨offset + ws.length + 1, ?_⟩
  rw [composite, bind_of_ok (peekToken_blank hws (by decide) _ offset)]
  change (if depth ≤ 1 then _ else _ : Reader α) _ = _
  rw [if_pos hdepth]
  rfl

theorem reads_composite {finished : σ → Reader α} {members : List (String × Json)}
    {r : Except Cause β} {draft : β → σ} {g : β → α}
    (hmembers : FieldsRead field s members (r.map draft))
    (hfinished : ∀ b rest offset, ∃ offset',
      finished (draft b) ⟨'\x7d' :: rest, offset⟩ = .ok (g b, ⟨rest, offset'⟩))
    (hdepth : 1 < depth) :
    Reads
      (composite depth expected
        (get >>= fun c => fieldsFrom field (c.rest.length + 1) true s >>= finished) positioned)
      (.object members) (r.map g) := by
  intro text htext ws rest offset hws hrest
  cases htext with
  | @object _ texts body htexts hbody =>
    obtain ⟨fuel, hfuel⟩ := exists_fuel hbody (begins_of_members htexts) ('\x7d' :: rest)
    have hends := ends_fieldsFrom hmembers htexts hbody fuel rest
      (offset + ws.length + '\x7b'.utf8Size)
    rw [← hfuel] at hends
    simp only [List.cons_append, List.append_assoc, List.nil_append]
    rw [composite_open hws hdepth]
    cases r with
    | error cause => exact hends.bind (s := fun _ => .error cause) nofun
    | ok b =>
      refine hends.bind (s := fun _ => .ok (g b)) fun a offset' ha => ?_
      cases ha
      obtain ⟨offset'', h⟩ := hfinished b rest offset'
      rw [h]
      exact .ok (g b) offset''

theorem reads_composite_deep (members : List (String × Json)) (hdepth : depth ≤ 1) :
    Reads (composite depth expected named positioned) (.object members) (.error .tooDeep) := by
  intro text htext ws rest offset hws hrest
  cases htext with
  | @object _ texts body htexts hbody =>
    obtain ⟨offset', hdeep⟩ :=
      composite_deep expected named positioned hws hdepth (body ++ '\x7d' :: rest) offset
    simp only [List.cons_append, List.append_assoc, List.nil_append]
    rw [hdeep]
    exact .error _ _

end

/-! ### Records -/

/-- What is known of a record once all its fields but the blocks have been read. -/
def RecordDraft.ofFields (f : RecordFields) : RecordDraft where
  context := some f.context
  level := f.level.map some
  id := f.id.map some
  title := f.title.map some
  text := f.text.map some
  content := f.content.map some

theorem fieldsRead_members (blocks : Reader (List Record)) {f : RecordFields} (hf : f.FitsWord)
    {ms : List (String × Json)} {r : Except Cause RecordDraft}
    (hms : FieldsRead (recordField blocks) (.ofFields f) ms r) :
    FieldsRead (recordField blocks) {} (f.members ++ ms) r := by
  let d : RecordDraft := { context := some f.context }
  let d₁ : RecordDraft := { d with level := f.level.map some }
  let d₂ : RecordDraft := { d₁ with id := f.id.map some }
  let d₃ : RecordDraft := { d₂ with title := f.title.map some }
  let d₄ : RecordDraft := { d₃ with text := f.text.map some }
  simp only [RecordFields.members, List.append_assoc]
  refine .cons (fieldReads_once (fun a => { context := a }) rfl (reads_string f.context)) ?_
  refine .given (fun a => { d with level := a }) ?_ (fun n hn => reads_optional_word (hf n hn)) ?_
  · rfl
  refine .given (fun a => { d₁ with id := a }) ?_ (fun a _ => reads_optional_string a) ?_
  · rfl
  refine .given (fun a => { d₂ with title := a }) ?_ (fun a _ => reads_optional_string a) ?_
  · rfl
  refine .given (fun a => { d₃ with text := a }) ?_ (fun a _ => reads_optional_string a) ?_
  · rfl
  refine .given (fun a => { d₄ with content := a }) ?_ (fun a _ => reads_optional_string a) hms
  rfl

theorem fieldReads_blocks {blocks : Reader (List Record)} (f : RecordFields) {v : Json}
    {r : Except Cause (List Record)} (h : Reads blocks v r) :
    FieldReads (recordField blocks) (.ofFields f) ("blocks", v)
      (r.map fun bs => { RecordDraft.ofFields f with blocks := some bs }) :=
  fieldReads_once (fun bs => { RecordDraft.ofFields f with blocks := bs }) rfl h

def within (n : Nat) (r : Record) : Except Cause Record :=
  if r.outline.height ≤ n then .ok r else .error .tooDeep

theorem mapM_within (n : Nat) (rs : List Record) :
    (rs.map (within n)).mapM id =
      if Outline.heights (Record.outlines rs) ≤ n then .ok rs else .error .tooDeep := by
  induction rs with
  | nil => simp [Record.outlines, Outline.heights]; rfl
  | cons r rs ih =>
    simp only [List.map_cons, mapM_id_cons, ih, within, Record.outlines, Outline.heights,
      Nat.max_le]
    by_cases hr : r.outline.height ≤ n
    · by_cases hrs : Outline.heights (Record.outlines rs) ≤ n
      · simp [hr, hrs, Except.bind]
      · simp [hr, hrs, Except.bind]
    · simp [hr, Except.bind]

theorem height_pos (r : Record) : 0 < r.outline.height := by
  obtain ⟨f, rs⟩ := r
  exact Nat.succ_pos _

theorem reads_blocks {rs : List Record} (hne : rs ≠ []) {n : Nat}
    (hrs : List.Forall₂ (Reads (record (2 * n))) (Record.jsons rs) (rs.map (within n))) :
    Reads (sequence (2 * n + 1) (record (2 * n))) (.array (Record.jsons rs))
      ((rs.map (within n)).mapM id) := by
  cases n with
  | succ n => exact reads_sequence hrs (by omega)
  | zero =>
    -- No bracket is left for the list itself, and every record is higher than nothing.
    obtain ⟨r, rs, rfl⟩ := List.exists_cons_of_ne_nil hne
    have hr : within 0 r = .error .tooDeep := if_neg (Nat.not_le.2 (height_pos r))
    rw [List.map_cons, mapM_id_cons, hr]
    exact reads_sequence_deep _ (Nat.le_refl 1)

theorem reads_recordWith {blocks : Reader (List Record)} {f : RecordFields} (hf : f.FitsWord)
    {ms : List (String × Json)} {r : Except Cause (Option (List Record))}
    (hms : FieldsRead (recordField blocks) (.ofFields f) ms
      (r.map fun bs => { RecordDraft.ofFields f with blocks := bs }))
    {depth : Nat} (hdepth : 1 < depth) :
    Reads (recordWith depth blocks) (.object (f.members ++ ms))
      (r.map fun bs => .mk f (bs.getD [])) := by
  refine reads_composite (fieldsRead_members blocks hf hms) (fun bs rest offset => ?_) hdepth
  have hjoin {α : Type} (a : Option α) : (a.map some).join = a := by cases a <;> rfl
  refine ⟨offset + '\x7d'.utf8Size, ?_⟩
  simp only [RecordDraft.ofFields, hjoin]
  rfl

mutual

theorem reads_record : ∀ (r : Record), (∀ f ∈ r.contents, f.FitsWord) → ∀ n : Nat,
    Reads (record (2 * n)) r.json (within n r)
  | .mk f rs, _, 0 => by
    rw [within, if_neg (Nat.not_le.2 (height_pos _)), Record.json]
    exact reads_composite_deep _ (Nat.zero_le 1)
  | .mk f rs, hfits, n + 1 => by
    obtain ⟨hf, hrs⟩ := List.forall_mem_cons.1 hfits
    have hblocks := reads_records rs hrs n
    have hheight : within (n + 1) (.mk f rs) = ((rs.map (within n)).mapM id).map (.mk f) := by
      rw [mapM_within, within, Record.outline, Outline.height]
      by_cases h : Outline.heights (Record.outlines rs) ≤ n
      · simp [h, Except.map]
      · simp [h, Except.map]
    rw [hheight]
    -- One bracket for the record and one for its list, so its blocks are read with two fewer.
    change Reads (recordWith (2 * n + 2) (sequence (2 * n + 1) (record (2 * n)))) _ _
    cases rs with
    | nil => exact reads_recordWith (r := .ok none) hf (.nil _) (by omega)
    | cons r rs =>
      have hitems := reads_blocks (List.cons_ne_nil r rs) hblocks
      generalize ((r :: rs).map (within n)).mapM id = result at hitems
      have hfield := fieldReads_blocks f hitems
      cases result with
      | ok bs => exact reads_recordWith (r := .ok (some bs)) hf (.single hfield) (by omega)
      | error cause => exact reads_recordWith (r := .error cause) hf (.single hfield) (by omega)

theorem reads_records : ∀ (rs : List Record), (∀ f ∈ Record.contentsAll rs, f.FitsWord) →
    ∀ n : Nat, List.Forall₂ (Reads (record (2 * n))) (Record.jsons rs) (rs.map (within n))
  | [], _, _ => .nil
  | r :: rs, hfits, n => by
    obtain ⟨hr, hrs⟩ := List.forall_mem_append.1 hfits
    exact .cons (reads_record r hr n) (reads_records rs hrs n)

end

/-! ### Documents -/

theorem reads_attributes {ms : List (String × Json)} (h : ∀ m ∈ ms, ∃ s, m.2 = .string s) :
    Reads attributes (.object ms) (.ok ms) := by
  have hvalue : ∀ m ∈ ms, Reads (value (nestingLimit - 2)) m.2 (.ok m.2) := by
    intro m hm
    obtain ⟨s, hs⟩ := h m hm
    rw [hs]
    exact reads_value_string s _
  have hmembers : ms.mapM (fun m => (Except.ok m.2 : Except Cause Json).map (m.1, ·)) = .ok ms :=
    by
    have hpure := List.mapM_pure (m := Except Cause) (l := ms) (f := id)
    rwa [List.map_id] at hpure
  exact hmembers ▸ reads_map hvalue (by decide)

theorem reads_documentRecord {d : DocumentRecord}
    (hattributes : ∀ p ∈ d.attributes.entries, ∃ s, p.2 = .string s)
    (hfits : ∀ f ∈ d.contents, f.FitsWord) :
    Reads (composite nestingLimit "struct RawDocument" namedDocument positionedDocument) d.json
      (((d.blocks.map (within 63)).mapM id).map fun bs => { d with blocks := bs }) := by
  have hblocks : Reads records (.array (Record.jsons d.blocks))
      ((d.blocks.map (within 63)).mapM id) :=
    reads_sequence (reads_records d.blocks hfits 63) (by decide)
  let start : DocumentDraft := { attributes := some d.attributes.entries }
  have hfirst : FieldReads documentField {} ("attributes", .object d.attributes.entries)
      (.ok start) :=
    fieldReads_once (fun as => ({ attributes := as } : DocumentDraft)) rfl
      (reads_attributes hattributes)
  have hsecond : FieldReads documentField start ("blocks", .array (Record.jsons d.blocks))
      (((d.blocks.map (within 63)).mapM id).map fun bs => { start with blocks := some bs }) :=
    fieldReads_once (fun bs => { start with blocks := bs }) rfl hblocks
  refine reads_composite (.cons hfirst (.single hsecond)) (fun bs rest offset => ?_) (by decide)
  have hentries : Dictionary.ofList (start.attributes.getD []) = d.attributes :=
    Dictionary.ofList_entries d.attributes
  refine ⟨offset + '\x7d'.utf8Size, ?_⟩
  simp only [hentries]
  rfl

theorem ends_documentRecord {d : DocumentRecord}
    (hattributes : ∀ p ∈ d.attributes.entries, ∃ s, p.2 = .string s)
    (hfits : ∀ f ∈ d.contents, f.FitsWord) {text : String} (htext : d.json.WrittenAs text) :
    Ends [] (((d.blocks.map (within 63)).mapM id).map fun bs => { d with blocks := bs })
      (documentRecord ⟨text.toList, 0⟩) := by
  obtain ⟨ws, body, ws', hws, hbody, hws', htext⟩ := htext
  have hdelimited : Delimited (ws' ++ []) := Json.delimited_blank_append hws' nofun
  rw [List.append_nil] at hdelimited
  have hends := reads_documentRecord hattributes hfits body hbody ws ws' 0 hws hdelimited
  rw [htext]
  have hclosed := hends.map (g := id) fun d offset =>
    ⟨_, bind_of_ok (f := fun _ => pure d) (finish_blank hws' offset)⟩
  rwa [Except.map_id] at hclosed

section
variable {d : DocumentRecord} {text : String}

theorem read_of_height_le (hattributes : ∀ p ∈ d.attributes.entries, ∃ s, p.2 = .string s)
    (hfits : ∀ f ∈ d.contents, f.FitsWord) (htext : d.json.WrittenAs text)
    (hheight : Outline.heights (Record.outlines d.blocks) ≤ 63) :
    read text = d.document.mapError .invalid := by
  have hends := ends_documentRecord hattributes hfits htext
  rw [mapM_within, if_pos hheight] at hends
  obtain ⟨offset, hread⟩ := hends.exists_ok
  rw [read, hread]
  cases h : d.document <;> simp [h, Except.mapError]

theorem read_of_lt_height (hattributes : ∀ p ∈ d.attributes.entries, ∃ s, p.2 = .string s)
    (hfits : ∀ f ∈ d.contents, f.FitsWord) (htext : d.json.WrittenAs text)
    (hheight : 63 < Outline.heights (Record.outlines d.blocks)) :
    ∃ offset, read text = .error (.json ⟨.tooDeep, offset⟩ text) := by
  have hends := ends_documentRecord hattributes hfits htext
  rw [mapM_within, if_neg (Nat.not_le.2 hheight)] at hends
  obtain ⟨offset, hread⟩ := hends.exists_error
  exact ⟨offset, by rw [read, hread]⟩

end

end Source

end DocStream
