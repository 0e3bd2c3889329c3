import Mathlib
import Std.Tactic.Do
import DocStream.Html.Construction

/-! What the tree of a document is built from. No attribute in it holds the beginning of the tag
that ends the body, and a text that shows it is made of characters that were taken in as text: of
those of the text so far, and of some of those still to come. Everything that the steps on the tree
do keeps this, until a character goes into the tree. -/

namespace DocStream.Html
open Std.Do

set_option mvcgen.warning false

def endMark : List Char := "</body".toList

def Attribute.Clear (a : Attribute) : Prop :=
  '/' ∉ a.name.toList ∧ ¬ endMark <:+: a.value.toList

def Tag.Clear (t : Tag) : Prop := ∀ a ∈ t.attributes, a.Clear

/-- A text shows the end mark, or will do so with some of the characters to come behind it. -/
def Spells (cs pending : List Char) : Prop :=
  ∃ more, more.Sublist pending ∧ endMark <:+: cs ++ more

def Content.Clear (spelt : Prop) (pending : List Char) : Content → Prop
  | .element _ attributes .. => ∀ a ∈ attributes, a.Clear
  | .text s => Spells s.toList pending → spelt
  | .comment | .fragment => True

def FormattingEntry.Clear : FormattingEntry → Prop
  | .marker => True
  | .element _ t => t.Clear

/-- A tree that is clear of the end mark unless `spelt` allows it, with `pending` still to come. No
text of a table is held back, so that characters arrive in order. -/
structure Builder.Clear (spelt : Prop) (pending : List Char) (modes : Mode → Prop) (b : Builder) :
    Prop where
  coming : Spells [] pending → spelt
  nodes : ∀ n ∈ b.nodes, n.content.Clear spelt pending
  formatting : ∀ e ∈ b.formatting, e.Clear
  tableText : b.tableText = []
  mode : modes b.mode
  returnMode : b.returnMode ≠ .inTableText
  templateModes : .inTableText ∉ b.templateModes

variable {α : Type} {spelt : Prop} {pending : List Char} {modes : Mode → Prop}

theorem Spells.back {c : Char} {cs : List Char} (h : Spells (cs ++ [c]) pending) :
    Spells cs (c :: pending) := by
  obtain ⟨more, hmore, hmark⟩ := h
  exact ⟨c :: more, hmore.cons_cons c, by simpa using hmark⟩

def SpellsNoMore (fewer pending : List Char) : Prop :=
  ∀ cs, Spells cs fewer → Spells cs pending

theorem spellsNoMore_of_sublist {fewer : List Char} (h : fewer.Sublist pending) :
    SpellsNoMore fewer pending :=
  fun _ ⟨more, hmore, hmark⟩ => ⟨more, hmore.trans h, hmark⟩

theorem Content.Clear.mono {content : Content} {fewer : List Char}
    (h : content.Clear spelt pending) (hless : SpellsNoMore fewer pending) :
    content.Clear spelt fewer := by
  cases content with
  | text s => exact fun hmark => h (hless _ hmark)
  | _ => exact h

namespace Builder.Clear
variable {b : Builder}

theorem mono {fewer : List Char} (hb : b.Clear spelt pending modes)
    (hless : SpellsNoMore fewer pending) : b.Clear spelt fewer modes :=
  { hb with
    coming := fun h => hb.coming (hless [] h)
    nodes := fun n hn => (hb.nodes n hn).mono hless }

theorem tail {c : Char} (hb : b.Clear spelt (c :: pending) modes) : b.Clear spelt pending modes :=
  hb.mono (spellsNoMore_of_sublist (List.sublist_cons_self c pending))

theorem node (hb : b.Clear spelt pending modes) (i : Nat) :
    (b.node i).content.Clear spelt pending := by
  unfold Builder.node
  rw [Array.getD_eq_getD_getElem?]
  cases h : b.nodes[i]? with
  | none => trivial
  | some n => exact hb.nodes n (Array.mem_of_getElem? h)

theorem frame {b' : Builder} (hb : b.Clear spelt pending modes)
    (h : b' =
      { b with
        opened := b'.opened
        form := b'.form
        fosterParenting := b'.fosterParenting
        skipNewline := b'.skipNewline
        faults := b'.faults }) :
    b'.Clear spelt pending modes := by
  rw [h]
  exact { hb with }

theorem push (hb : b.Clear spelt pending modes) {content : Content}
    (h : content.Clear spelt pending) :
    Builder.Clear spelt pending modes { b with nodes := b.nodes.push { content } } := by
  refine { hb with nodes := fun n hn => ?_ }
  obtain hn | rfl := Array.mem_push.mp hn
  · exact hb.nodes n hn
  · exact h

theorem modify {later : List Char} (hb : b.Clear spelt pending modes)
    (hless : SpellsNoMore later pending) (i : Nat) {f : Node → Node}
    (h : ∀ n, n.content.Clear spelt pending → (f n).content.Clear spelt later) :
    Builder.Clear spelt later modes { b with nodes := b.nodes.modify i f } := by
  refine { hb.mono hless with nodes := fun n hn => ?_ }
  obtain ⟨j, hj, rfl⟩ := Array.mem_iff_getElem.mp hn
  rw [Array.getElem_modify]
  have hj' := hb.nodes _ (Array.getElem_mem (by simpa using hj))
  split
  · exact h _ hj'
  · exact hj'.mono hless

end Builder.Clear

namespace Build

abbrev Keeps (spelt : Prop) (pending : List Char) (modes : Mode → Prop) (m : Build α) : Prop :=
  ⦃fun b => ⌜b.Clear spelt pending modes⌝⦄ m ⦃⇓ _ b => ⌜b.Clear spelt pending modes⌝⦄

/-! ### Nodes -/

@[spec]
theorem keeps_fault (f : Fault) : Keeps spelt pending modes (fault f) := by
  mvcgen [fault] with exact Builder.Clear.frame ‹_› rfl

@[spec]
theorem keeps_newNode {content : Content} (h : content.Clear spelt pending) :
    Keeps spelt pending modes (newNode content) := by
  mvcgen [newNode]
  exact Builder.Clear.push ‹_› h

@[spec]
theorem keeps_modifyNode (i : Nat) {f : Node → Node}
    (h : ∀ n, n.content.Clear spelt pending → (f n).content.Clear spelt pending) :
    Keeps spelt pending modes (modifyNode i f) := by
  mvcgen [modifyNode]
  exact Builder.Clear.modify ‹_› (fun _ => id) i h

@[spec]
theorem keeps_newElement (name : ElementName) {attributes : List Attribute}
    (h : ∀ a ∈ attributes, a.Clear) :
    Keeps spelt pending modes (newElement name attributes) := by
  mvcgen [newElement] with first | trivial | exact fun _ _ => h

@[spec]
theorem keeps_detach (i : Nat) : Keeps spelt pending modes (detach i) := by
  mvcgen [detach] with (intros; assumption)

@[spec]
theorem keeps_appendNode (parent child : Nat) :
    Keeps spelt pending modes (appendNode parent child) := by
  mvcgen [appendNode] with (intros; assumption)

@[spec]
theorem keeps_insertBefore (parent place child : Nat) :
    Keeps spelt pending modes (insertBefore parent place child) := by
  mvcgen [insertBefore] with (intros; assumption)

@[spec]
theorem keeps_place (target : Option Nat) : Keeps spelt pending modes (place target) := by
  mvcgen [place]

@[spec]
theorem keeps_insertNode (spot : Place) (child : Nat) :
    Keeps spelt pending modes (insertNode spot child) := by
  mvcgen [insertNode]

@[spec]
theorem keeps_insertComment : Keeps spelt pending modes insertComment := by
  mvcgen [insertComment]

/-! ### Open elements -/

@[spec]
theorem keeps_push (i : Nat) : Keeps spelt pending modes (push i) := by
  mvcgen [push] with exact Builder.Clear.frame ‹_› rfl

@[spec]
theorem keeps_pop : Keeps spelt pending modes pop := by
  mvcgen [pop] with exact Builder.Clear.frame ‹_› rfl

@[spec]
theorem keeps_insertElement (name : ElementName) {attributes : List Attribute} (staysOpen : Bool)
    (h : ∀ a ∈ attributes, a.Clear) :
    Keeps spelt pending modes (insertElement name attributes staysOpen) := by
  mvcgen [insertElement]

@[spec]
theorem keeps_openFor {tag : Tag} (h : tag.Clear) : Keeps spelt pending modes (openFor tag) := by
  mvcgen [openFor] with exact fun _ _ => h

@[spec]
theorem keeps_insertFor {tag : Tag} (h : tag.Clear) :
    Keeps spelt pending modes (insertFor tag) := by
  mvcgen [insertFor] with exact fun _ _ => h

@[spec]
theorem keeps_openPhantom (name : String) : Keeps spelt pending modes (openPhantom name) := by
  mvcgen [openPhantom] with simp

@[spec]
theorem keeps_isCurrent (name : String) : Keeps spelt pending modes (isCurrent name) := by
  mvcgen [isCurrent]

@[spec]
theorem keeps_isCurrentIn (names : List String) :
    Keeps spelt pending modes (isCurrentIn names) := by
  mvcgen [isCurrentIn]

@[spec]
theorem keeps_closeThrough (p : Nat → Bool) : Keeps spelt pending modes (closeThrough p) := by
  mvcgen [closeThrough] with exact Builder.Clear.frame ‹_› rfl

@[spec]
theorem keeps_closeThroughNamed (name : String) :
    Keeps spelt pending modes (closeThroughNamed name) := by
  mvcgen [closeThroughNamed]

@[spec]
theorem keeps_expectToClose (name : String) :
    Keeps spelt pending modes (expectToClose name) := by
  mvcgen [expectToClose]

@[spec]
theorem keeps_closeDownTo (names : List String) :
    Keeps spelt pending modes (closeDownTo names) := by
  mvcgen [closeDownTo] with exact Builder.Clear.frame ‹_› rfl

@[spec]
theorem keeps_closeImplied (names : List String) :
    Keeps spelt pending modes (closeImplied names) := by
  mvcgen [closeImplied] with exact Builder.Clear.frame ‹_› rfl

@[spec]
theorem keeps_closeImpliedExcept (name : String) :
    Keeps spelt pending modes (closeImpliedExcept name) := by
  mvcgen [closeImpliedExcept]

@[spec]
theorem keeps_closeParagraph : Keeps spelt pending modes closeParagraph := by
  mvcgen [closeParagraph]

@[spec]
theorem keeps_closeParagraphInScope : Keeps spelt pending modes closeParagraphInScope := by
  mvcgen [closeParagraphInScope]

@[spec]
theorem keeps_removeOpen (i : Nat) : Keeps spelt pending modes (removeOpen i) := by
  mvcgen [removeOpen] with exact Builder.Clear.frame ‹_› rfl

/-! ### Formatting elements -/

@[spec]
theorem keeps_removeFormatting (i : Nat) : Keeps spelt pending modes (removeFormatting i) := by
  mvcgen [removeFormatting]
  rename_i b hb _
  exact { hb with formatting := fun e he => hb.formatting e (List.mem_of_mem_filter he) }

@[spec]
theorem keeps_addMarker : Keeps spelt pending modes addMarker := by
  mvcgen [addMarker]
  rename_i b hb _
  exact { hb with formatting := List.forall_mem_cons.mpr ⟨trivial, hb.formatting⟩ }

@[spec]
theorem keeps_clearToMarker : Keeps spelt pending modes clearToMarker := by
  mvcgen [clearToMarker]
  rename_i b hb _
  refine { hb with formatting := fun e he => hb.formatting e ?_ }
  exact (List.dropWhile_sublist _).mem (List.mem_of_mem_drop he)

@[spec]
theorem keeps_openFormatting {tag : Tag} (h : tag.Clear) :
    Keeps spelt pending modes (openFormatting tag) := by
  mvcgen [openFormatting] with try assumption
  all_goals
    rename_i b hb _
    exact { hb with formatting := List.forall_mem_cons.mpr ⟨h, hb.formatting⟩ }

theorem splitClosed_clear {b : Builder} {es : List FormattingEntry} (h : ∀ e ∈ es, e.Clear) :
    (∀ e ∈ (splitClosed b es).1, e.2.Clear) ∧ ∀ e ∈ (splitClosed b es).2, e.Clear := by
  induction es with
  | nil => simp [splitClosed]
  | cons e es ih =>
    obtain ⟨he, hes⟩ := List.forall_mem_cons.mp h
    cases e with
    | marker => simpa [splitClosed] using h
    | element i t =>
      have ht : t.Clear := he
      grind [splitClosed]

@[spec]
theorem keeps_reconstructFormatting : Keeps spelt pending modes reconstructFormatting := by
  mvcgen [reconstructFormatting] invariants
  · ⇓ r b => ⌜b.Clear spelt pending modes ∧ ∀ e ∈ r.2, e.Clear⌝
  case vc5.h b hb _ _ before e after hclosed _ _ _ =>
    have he : e ∈ (splitClosed b b.formatting).1.reverse := hclosed ▸ by simp
    exact (splitClosed_clear hb.formatting).1 e (List.mem_reverse.mp he)
  case vc6.step.pre h => exact h.1
  case vc7.step.post.success b hb _ _ before e after hclosed _ _ h _ _ _ hb' =>
    have he : e ∈ (splitClosed b b.formatting).1.reverse := hclosed ▸ by simp
    have ht := (splitClosed_clear hb.formatting).1 e (List.mem_reverse.mp he)
    exact ⟨hb', List.forall_mem_cons.mpr ⟨ht, h.2⟩⟩
  case vc8.isFalse.pre hb _ _ => exact ⟨hb, (splitClosed_clear hb.formatting).2⟩
  case vc9.isFalse.post.success h _ =>
    obtain ⟨hb, hentries⟩ := h
    exact { hb with formatting := hentries }

/-! ### Elements closed out of order -/

theorem tagOf_clear {b : Builder} {i : Nat} {t : Tag} (h : tagOf b i = some t)
    (hb : b.Clear spelt pending modes) : t.Clear := by
  obtain ⟨e, he, h⟩ := List.exists_of_findSome?_eq_some h
  have := hb.formatting e he
  grind [FormattingEntry.Clear]

theorem sinceMarker_clear {es : List FormattingEntry} {p : Nat × Tag → Bool} {e : Nat × Tag}
    (he : (sinceMarker es).find? p = some e) (h : ∀ e ∈ es, e.Clear) : e.2.Clear := by
  have hmem := List.mem_of_find?_eq_some he
  clear he
  induction es with
  | nil => simp [sinceMarker] at hmem
  | cons e' es ih =>
    obtain ⟨he', hes⟩ := List.forall_mem_cons.mp h
    cases e' with
    | marker => simp [sinceMarker] at hmem
    | element i t =>
      obtain rfl | hmem := List.mem_cons.mp hmem
      · exact he'
      · exact ih hes hmem

@[spec]
theorem keeps_genericEnd (name : String) : Keeps spelt pending modes (genericEnd name) := by
  mvcgen [genericEnd] with exact Builder.Clear.frame ‹_› rfl

@[spec]
theorem keeps_replaceFormatting (i : Nat) {entry : FormattingEntry} (h : entry.Clear) :
    Keeps spelt pending modes (replaceFormatting i entry) := by
  mvcgen [replaceFormatting]
  rename_i b hb _
  refine { hb with formatting := fun e he => ?_ }
  obtain ⟨e', he', rfl⟩ := List.mem_map.mp he
  have := hb.formatting e' he'
  grind

@[spec]
theorem keeps_addAfter (i : Nat) {entry : FormattingEntry} (h : entry.Clear) :
    Keeps spelt pending modes (addAfter i entry) := by
  mvcgen [addAfter]
  rename_i b hb _
  refine { hb with formatting := fun e he => ?_ }
  obtain ⟨e', he', he⟩ := List.mem_flatMap.mp he
  have := hb.formatting e' he'
  grind

@[spec]
theorem keeps_copyOf {tag : Tag} (h : tag.Clear) : Keeps spelt pending modes (copyOf tag) := by
  mvcgen [copyOf] with exact fun _ _ => h

@[spec]
theorem keeps_wrapOutward (block : Nat) (is : List Nat) (seen last : Nat) (first : Option Nat) :
    Keeps spelt pending modes (wrapOutward block is seen last first) := by
  induction is generalizing seen last first with
  | nil => mvcgen [wrapOutward]
  | cons i is ih =>
    mvcgen [wrapOutward, ih] with exact tagOf_clear ‹_› ‹_›

@[spec]
theorem keeps_moveChildren (source target : Nat) :
    Keeps spelt pending modes (moveChildren source target) := by
  mvcgen [moveChildren] invariants
  · ⇓ _ b => ⌜b.Clear spelt pending modes⌝
  with (intros; assumption)

@[spec]
theorem keeps_splitAround (element : Nat) {tag : Tag} (block : Nat)
    (inner between outer : List Nat) (h : tag.Clear) :
    Keeps spelt pending modes (splitAround element tag block inner between outer) := by
  mvcgen [splitAround] with first | exact h | exact Builder.Clear.frame ‹_› rfl

@[spec]
theorem keeps_closeFormattingFrom (name : String) (rounds : Nat) :
    Keeps spelt pending modes (closeFormattingFrom name rounds) := by
  induction rounds with
  | zero => mvcgen [closeFormattingFrom]
  | succ rounds ih =>
    mvcgen [closeFormattingFrom, ih] with first
      | exact Builder.Clear.frame ‹_› rfl
      | exact sinceMarker_clear ‹_› (Builder.Clear.formatting ‹_›)

@[spec]
theorem keeps_closeFormatting (name : String) :
    Keeps spelt pending modes (closeFormatting name) := by
  mvcgen [closeFormatting]

@[spec]
theorem keeps_closeOuterLink : Keeps spelt pending modes closeOuterLink := by
  mvcgen [closeOuterLink]

/-! ### Characters -/

abbrev Takes (spelt : Prop) (c : Char) (pending : List Char) (modes : Mode → Prop)
    (m : Build α) : Prop :=
  ⦃fun b => ⌜b.Clear spelt (c :: pending) modes⌝⦄ m ⦃⇓ _ b => ⌜b.Clear spelt pending modes⌝⦄

theorem takes_newText (c : Char) :
    Takes spelt c pending modes (newNode (.text (String.singleton c))) := by
  mvcgen [newNode, -keeps_newNode]
  rename_i b hb _
  exact hb.tail.push fun h => hb.coming (Spells.back (by simpa using h))

@[spec]
theorem takes_extendText (i : Nat) (c : Char) :
    Takes spelt c pending modes (extendText i c) := by
  mvcgen [extendText, modifyNode, -keeps_modifyNode]
  rename_i b hb _
  have hless := spellsNoMore_of_sublist (List.sublist_cons_self c pending)
  refine hb.modify hless i fun n hn => ?_
  obtain ⟨parent, content, children⟩ := n
  cases content with
  | text s => exact fun h => hn (Spells.back (by simpa using h))
  | _ => exact hn

@[spec]
theorem takes_appendChar (parent : Nat) (c : Char) :
    Takes spelt c pending modes (appendChar parent c) := by
  mvcgen [appendChar, takes_newText, -keeps_newNode]

@[spec]
theorem takes_insertCharBefore (parent place : Nat) (c : Char) :
    Takes spelt c pending modes (insertCharBefore parent place c) := by
  mvcgen [insertCharBefore, takes_newText, -keeps_newNode]

@[spec]
theorem takes_insertChar (c : Char) : Takes spelt c pending modes (insertChar c) := by
  have hplace := @keeps_place spelt (c :: pending) modes none
  mvcgen [insertChar, hplace, -keeps_place]

end Build

end DocStream.Html
