import Mathlib
import Std.Tactic.Do
import DocStream.Proofs.TreeBuilding

/-! Tags and the end of the text, in every mode: the tree stays clear of the end mark, and a token
that is handed on stays the same. Only characters of a table may be held back, and what calls for
that is a character. -/

namespace DocStream.Html
open Std.Do

set_option mvcgen.warning false

@[simp]
def Mode.Prompt (m : Mode) : Prop := m ≠ .inTableText

def Token.Clear : Token → Prop
  | .startTag tag | .endTag tag => tag.Clear
  | .char _ => False
  | .comment | .doctype | .fault _ | .finish => True

@[simp]
def Outcome.Returns (token : Token) : Outcome → Prop
  | .again mode t => t = token ∧ mode.Prompt
  | .done | .acknowledged | .raw _ | .plaintext => True

namespace Build
variable {spelt : Prop} {pending : List Char} {modes : Mode → Prop}

abbrev Handles (spelt : Prop) (pending : List Char) (token : Token) (m : Build Outcome) : Prop :=
  ⦃fun b => ⌜b.Clear spelt pending Mode.Prompt⌝⦄ m
  ⦃⇓ o b => ⌜b.Clear spelt pending Mode.Prompt ∧ o.Returns token⌝⦄

/-! ### What several modes share -/

@[spec]
theorem handles_unexpected (token : Token) : Handles spelt pending token unexpected := by
  mvcgen [unexpected]

@[spec]
theorem keeps_setMode {m : Mode} (h : m.Prompt) :
    Keeps spelt pending Mode.Prompt (setMode m) := by
  mvcgen [setMode]
  rename_i b hb _
  exact { hb with mode := h }

theorem modeFor_prompt {b : Builder} (h : .inTableText ∉ b.templateModes) (is : List Nat) :
    (modeFor b is).Prompt := by
  unfold Mode.Prompt
  fun_induction modeFor b is <;> try simp_all
  -- a template calls for the mode that was noted for it
  case case14 =>
    cases hm : b.templateModes with
    | nil => simp
    | cons m ms => exact fun h' => h (by simp_all)

@[spec]
theorem keeps_resetMode :
    ⦃fun b => ⌜b.Clear spelt pending Mode.Prompt⌝⦄ resetMode
    ⦃⇓ m b => ⌜b.Clear spelt pending Mode.Prompt ∧ m.Prompt⌝⦄ := by
  mvcgen [resetMode]
  exact ⟨‹_›, modeFor_prompt (Builder.Clear.templateModes ‹_›) _⟩

@[spec]
theorem handles_openRaw (token : Token) {tag : Tag} (kind : RawKind) (h : tag.Clear) :
    Handles spelt pending token (openRaw tag kind) := by
  mvcgen [openRaw]
  rename_i b hb _
  exact ⟨{ hb with mode := Mode.noConfusion, returnMode := hb.mode }, trivial⟩

@[spec]
theorem handles_insertEmpty (token : Token) {tag : Tag} (h : tag.Clear) :
    Handles spelt pending token (insertEmpty tag) := by
  mvcgen [insertEmpty]

@[spec]
theorem keeps_checkBodyEnd : Keeps spelt pending modes checkBodyEnd := by
  mvcgen [checkBodyEnd]

@[spec]
theorem keeps_addAttributes (i : Nat) {attributes : List Attribute}
    (h : ∀ a ∈ attributes, a.Clear) :
    Keeps spelt pending modes (addAttributes i attributes) := by
  mvcgen [addAttributes]
  intro _ _ n hn
  obtain ⟨parent, content, children⟩ := n
  cases content with
  | element name own contents holdsHtml =>
    intro a ha
    obtain ha | ha := List.mem_append.mp ha
    · exact hn a ha
    · exact h a (List.mem_of_mem_filter ha)
  | _ => exact hn

/-! ### Templates, and what may stand in a head -/

theorem clear_dropTemplateMode {b : Builder} (hb : b.Clear spelt pending modes) :
    Builder.Clear spelt pending modes { b with templateModes := b.templateModes.drop 1 } :=
  { hb with templateModes := fun h => hb.templateModes (List.mem_of_mem_drop h) }

@[spec]
theorem keeps_endTemplate : Keeps spelt pending Mode.Prompt endTemplate := by
  mvcgen [endTemplate] with first
    | exact clear_dropTemplateMode ‹_›
    | simp_all

@[spec]
theorem handles_headStart (token : Token) {tag : Tag} (h : tag.Clear) :
    Handles spelt pending token (headStart tag) := by
  mvcgen [headStart] with try exact fun _ _ => h
  rename_i b hb _
  refine ⟨{ hb with mode := Mode.noConfusion, templateModes := fun hm => ?_ }, trivial⟩
  obtain hm | hm := List.mem_cons.mp hm
  · cases hm
  · exact hb.templateModes hm

@[spec]
theorem handles_templateEnd (token : Token) : Handles spelt pending token templateEnd := by
  mvcgen [templateEnd]

@[spec]
theorem handles_templateFinish : Handles spelt pending .finish templateFinish := by
  mvcgen [templateFinish] with first
    | exact clear_dropTemplateMode ‹_›
    | simp_all

/-! ### Names in foreign content -/

theorem respell_free {spellings : List String} (h : ∀ s ∈ spellings, '/' ∉ s.toList)
    {name : String} (hname : '/' ∉ name.toList) : '/' ∉ (respell spellings name).toList := by
  unfold respell
  cases hs : spellings.find? fun s => s.map Char.toLower = name with
  | none => exact hname
  | some s => exact h s (List.mem_of_find?_eq_some hs)

theorem withoutPrefix_free {name : String} (hname : '/' ∉ name.toList) :
    '/' ∉ (withoutPrefix name).toList := by
  unfold withoutPrefix
  cases hs : prefixedAttributes.lookup name with
  | none => exact hname
  | some s =>
    obtain ⟨before, after, h, -⟩ := List.lookup_eq_some_iff.mp hs
    have hmem : (name, s) ∈ prefixedAttributes := h ▸ by simp
    have hfree : ∀ e ∈ prefixedAttributes, '/' ∉ e.2.toList := by decide
    exact hfree _ hmem

theorem mapAttributeNames_clear {tag : Tag} (h : tag.Clear) {f : String → String}
    (hf : ∀ name : String, '/' ∉ name.toList → '/' ∉ (f name).toList) :
    (tag.mapAttributeNames f).Clear := by
  intro a' ha'
  obtain ⟨a, ha, rfl⟩ := List.mem_map.mp ha'
  exact ⟨hf _ (h a ha).1, (h a ha).2⟩

theorem asSvg_clear {tag : Tag} (h : tag.Clear) : tag.asSvg.Clear :=
  mapAttributeNames_clear h fun _ hname => withoutPrefix_free (respell_free (by decide) hname)

theorem asMathml_clear {tag : Tag} (h : tag.Clear) : tag.asMathml.Clear :=
  mapAttributeNames_clear h fun _ hname => withoutPrefix_free (respell_free (by decide) hname)

/-! ### Body text -/

@[spec]
theorem handles_openItem (token : Token) {tag : Tag} (names : List String) (h : tag.Clear) :
    Handles spelt pending token (openItem tag names) := by
  mvcgen [openItem]

@[spec]
theorem handles_openForeign (token : Token) (space : Namespace) {tag : Tag} (h : tag.Clear) :
    Handles spelt pending token (openForeign space tag) := by
  mvcgen [openForeign]
  split <;> exact ⟨‹_›, trivial⟩

@[spec]
theorem handles_openBlock (token : Token) {tag : Tag} (h : tag.Clear) :
    Handles spelt pending token (openBlock tag) := by
  mvcgen [openBlock]

@[spec]
theorem handles_openInline (token : Token) {tag : Tag} (h : tag.Clear) :
    Handles spelt pending token (openInline tag) := by
  mvcgen [openInline]

@[spec]
theorem handles_emptyInline (token : Token) {tag : Tag} (h : tag.Clear) :
    Handles spelt pending token (emptyInline tag) := by
  mvcgen [emptyInline] with exact fun _ _ => h

@[spec]
theorem handles_openFormattingTag (token : Token) {tag : Tag} (h : tag.Clear) :
    Handles spelt pending token (openFormattingTag tag) := by
  mvcgen [openFormattingTag]

@[spec]
theorem handles_openSelect (token : Token) {tag : Tag} (h : tag.Clear) :
    Handles spelt pending token (openSelect tag) := by
  mvcgen [openSelect]
  rename_i b hb _
  refine ⟨{ hb with mode := ?_ }, trivial⟩
  change (if _ then _ else _) ≠ _
  split <;> exact Mode.noConfusion

@[spec]
theorem handles_openForm (token : Token) {tag : Tag} (h : tag.Clear) :
    Handles spelt pending token (openForm tag) := by
  mvcgen [openForm] with exact ⟨Builder.Clear.frame ‹_› rfl, trivial⟩

@[spec]
theorem handles_openButton (token : Token) {tag : Tag} (h : tag.Clear) :
    Handles spelt pending token (openButton tag) := by
  mvcgen [openButton] with exact fun _ _ => h

@[spec]
theorem handles_openHeading (token : Token) {tag : Tag} (h : tag.Clear) :
    Handles spelt pending token (openHeading tag) := by
  mvcgen [openHeading]

@[spec]
theorem handles_openNobr (token : Token) {tag : Tag} (h : tag.Clear) :
    Handles spelt pending token (openNobr tag) := by
  mvcgen [openNobr]

@[spec]
theorem handles_openRuby (token : Token) {tag : Tag} (keep outer : List String) (h : tag.Clear) :
    Handles spelt pending token (openRuby tag keep outer) := by
  mvcgen [openRuby]

@[spec]
theorem handles_bodyStart (token : Token) {tag : Tag} (h : tag.Clear) :
    Handles spelt pending token (bodyStart tag) := by
  have hmarker := @keeps_addMarker spelt pending Mode.Prompt
  mvcgen [bodyStart, hmarker, -keeps_addMarker] with first
    | exact fun _ _ => h
    | exact fun _ _ => asMathml_clear h
    | exact fun _ _ => asSvg_clear h
    | exact Builder.Clear.frame ‹_› rfl
    | exact ⟨Builder.Clear.frame (And.left ‹_›) rfl, And.right ‹_›⟩
    | simp_all

@[spec]
theorem handles_closeForm (token : Token) : Handles spelt pending token closeForm := by
  mvcgen [closeForm] with exact Builder.Clear.frame ‹_› rfl

@[spec]
theorem handles_closeItem (token : Token) (name : String) :
    Handles spelt pending token (closeItem name) := by
  mvcgen [closeItem]

@[spec]
theorem handles_closeHeading (token : Token) (name : String) :
    Handles spelt pending token (closeHeading name) := by
  mvcgen [closeHeading]

@[spec]
theorem handles_bodyEnd (tag : Tag) : Handles spelt pending (.endTag tag) (bodyEnd tag) := by
  have hbr : Tag.Clear { name := "br" } := by simp [Tag.Clear]
  mvcgen [bodyEnd] with first
    | exact fun _ _ => hbr
    | simp_all

@[spec]
theorem handles_inBody {token : Token} (h : token.Clear) :
    Handles spelt pending token (inBody token) := by
  cases token with
  | char c => cases h
  | _ => mvcgen [inBody] with exact fun _ _ => h

@[spec]
theorem handles_inText {token : Token} (h : token.Clear) :
    Handles spelt pending token (inText token) := by
  cases token with
  | char c => cases h
  | finish =>
    unfold inText
    mvcgen
    rename_i b hb
    exact ⟨hb, rfl, hb.returnMode⟩
  | _ =>
    unfold inText
    mvcgen
    rename_i b hb _
    exact ⟨{ hb with mode := hb.returnMode }, trivial⟩

/-! ### Tables -/

@[spec]
theorem handles_misplaced {token : Token} (h : token.Clear) :
    Handles spelt pending token (misplaced token) := by
  mvcgen [misplaced] with first
    | exact Builder.Clear.frame ‹_› rfl
    | exact ⟨Builder.Clear.frame (And.left ‹_›) rfl, And.right ‹_›⟩

@[spec]
theorem handles_tableStart {tag : Tag} (h : tag.Clear) :
    Handles spelt pending (.startTag tag) (tableStart tag) := by
  mvcgen [tableStart] with first
    | exact fun _ _ => h
    | exact ⟨Builder.Clear.frame ‹_› rfl, trivial⟩
    | simp_all

@[spec]
theorem handles_tableEnd {tag : Tag} (h : tag.Clear) :
    Handles spelt pending (.endTag tag) (tableEnd tag) := by
  mvcgen [tableEnd] with first
    | exact fun _ _ => h
    | simp_all

@[spec]
theorem handles_inTable {token : Token} (h : token.Clear) :
    Handles spelt pending token (inTable token) := by
  cases token with
  | char c => cases h
  | _ =>
    unfold inTable
    mvcgen with exact fun _ _ => h

@[spec]
theorem handles_inCaption {token : Token} (h : token.Clear) :
    Handles spelt pending token (inCaption token) := by
  cases token with
  | char c => cases h
  | _ =>
    unfold inCaption
    mvcgen with first
      | exact fun _ _ => h
      | simp_all

@[spec]
theorem handles_inColumnGroup {token : Token} (h : token.Clear) :
    Handles spelt pending token (inColumnGroup token) := by
  cases token with
  | char c => cases h
  | _ =>
    unfold inColumnGroup
    mvcgen with first
      | exact fun _ _ => h
      | simp_all

@[spec]
theorem handles_inTableBody {token : Token} (h : token.Clear) :
    Handles spelt pending token (inTableBody token) := by
  cases token with
  | char c => cases h
  | _ =>
    unfold inTableBody
    mvcgen with first
      | exact fun _ _ => h
      | simp_all

@[spec]
theorem handles_inRow {token : Token} (h : token.Clear) :
    Handles spelt pending token (inRow token) := by
  cases token with
  | char c => cases h
  | _ =>
    unfold inRow
    mvcgen with first
      | exact fun _ _ => h
      | simp_all

@[spec]
theorem keeps_closeCell : Keeps spelt pending modes closeCell := by
  mvcgen [closeCell]

@[spec]
theorem handles_inCell {token : Token} (h : token.Clear) :
    Handles spelt pending token (inCell token) := by
  cases token with
  | char c => cases h
  | _ =>
    unfold inCell
    mvcgen with first
      | exact fun _ _ => h
      | simp_all

/-! ### Choices and templates -/

@[spec]
theorem keeps_popIfCurrent (name : String) : Keeps spelt pending modes (popIfCurrent name) := by
  mvcgen [popIfCurrent]

@[spec]
theorem keeps_leaveSelect : Keeps spelt pending modes leaveSelect := by
  mvcgen [leaveSelect]

@[spec]
theorem handles_selectStart {tag : Tag} (h : tag.Clear) :
    Handles spelt pending (.startTag tag) (selectStart tag) := by
  mvcgen [selectStart] with first
    | exact fun _ _ => h
    | simp_all

@[spec]
theorem handles_selectEnd (tag : Tag) :
    Handles spelt pending (.endTag tag) (selectEnd tag) := by
  mvcgen [selectEnd] with simp_all

@[spec]
theorem handles_inSelect {token : Token} (h : token.Clear) :
    Handles spelt pending token (inSelect token) := by
  cases token with
  | char c => cases h
  | _ =>
    unfold inSelect
    mvcgen with exact fun _ _ => h

@[spec]
theorem handles_inSelectInTable {token : Token} (h : token.Clear) :
    Handles spelt pending token (inSelectInTable token) := by
  cases token with
  | char c => cases h
  | _ =>
    unfold inSelectInTable
    mvcgen with first
      | exact fun _ _ => h
      | simp_all

theorem clear_become {b : Builder} {m : Mode} (hb : b.Clear spelt pending modes) (hm : m.Prompt) :
    Builder.Clear spelt pending modes { b with templateModes := m :: b.templateModes.drop 1 } :=
  { hb with
    templateModes := fun h => by
      obtain h | h := List.mem_cons.mp h
      · exact hm h.symm
      · exact hb.templateModes (List.mem_of_mem_drop h) }

@[spec]
theorem handles_inTemplate {token : Token} (h : token.Clear) :
    Handles spelt pending token (inTemplate token) := by
  cases token with
  | char c => cases h
  | _ =>
    unfold inTemplate
    mvcgen with first
      | exact fun _ _ => h
      | exact ⟨clear_become ‹_› Mode.noConfusion, rfl, Mode.noConfusion⟩

@[spec]
theorem handles_rootComment (token : Token) : Handles spelt pending token rootComment := by
  mvcgen [rootComment]

@[spec]
theorem handles_afterBody (whole : Bool) {token : Token} (h : token.Clear) :
    Handles spelt pending token (afterBody whole token) := by
  cases token with
  | char c => cases h
  | _ =>
    unfold afterBody
    mvcgen with first
      | exact fun _ _ => h
      | simp_all

end Build
end DocStream.Html
