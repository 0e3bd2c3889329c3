import DocStream.Proofs.AnchorHeads
import DocStream.Proofs.FragmentContent
import DocStream.Proofs.ParagraphRuns

/-! What shows of a body. Blanks and paragraphs apart, the fragment that a body becomes shows what
the body itself shows when it is read from its start to its end: the same characters, line breaks,
styles and links, each once and in the same order. Which elements show what is said here in tables
of names, and which link an anchor shows by its attributes. -/

namespace DocStream

/-- The least parts of a text that show: a character that is no blank, a line break, and the places
where a style or a link begins and ends. -/
inductive Atom where
  | char (c : Char)
  | opening (container : Container)
  | closing (container : Container)
  | lineBreak

namespace Atom

def visibleChars (cs : List Char) : List Atom :=
  (cs.filter fun c => c.toNat ∉ Text.whiteSpace).map char

def visible (s : String) : List Atom := visibleChars s.toList

end Atom

def Event.atoms : Event → List Atom
  | opening .paragraph => []
  | closing .paragraph => []
  | opening c => [.opening c]
  | closing c => [.closing c]
  | text s => Atom.visible s
  | lineBreak => [.lineBreak]

def FragmentNode.atoms (n : FragmentNode) : List Atom := n.events.flatMap Event.atoms

def Fragment.atoms (f : Fragment) : List Atom := f.events.flatMap Event.atoms

/-! ### Characters -/

namespace Text

theorem isBlank_space : isBlank ' ' = true := by decide

theorem filter_dropWhile_isBlank (cs : List Char) :
    ((cs.dropWhile isBlank).filter fun c => !isBlank c) = cs.filter fun c => !isBlank c := by
  induction cs with
  | nil => rfl
  | cons c cs ih => cases h : isBlank c <;> simp [h, ih]

theorem filter_collapse (cs : List Char) :
    ((collapse cs).filter fun c => !isBlank c) = cs.filter fun c => !isBlank c := by
  fun_induction collapse cs with
  | case1 => rfl
  | case2 c cs hc hnext ih => simp [hc, ih]
  | case3 c cs hc hnext ih => simp [hc, isBlank_space, ih]
  | case4 c cs hc ih => simp [hc, ih]

end Text

namespace Atom

theorem visibleChars_eq (cs : List Char) :
    visibleChars cs = (cs.filter fun c => !Text.isBlank c).map char := by
  have hkept (c : Char) : decide (c.toNat ∉ Text.whiteSpace) = !Text.isBlank c := by
    simp [← Text.isBlank_iff]
  simp only [visibleChars, hkept]

theorem visible_ofList (cs : List Char) : visible (String.ofList cs) = visibleChars cs := by
  rw [visible, String.toList_ofList]

theorem visible_of_isEmpty {s : String} (h : s.isEmpty = true) : visible s = [] := by
  rw [String.isEmpty_iff.1 h]
  rfl

@[simp] theorem visible_collapseBlanks (s : String) :
    visible (Text.collapseBlanks s) = visible s := by
  rw [Text.collapseBlanks, visible_ofList, visibleChars_eq, Text.filter_collapse, visible,
    visibleChars_eq]

@[simp] theorem visible_trimStart (s : String) : visible (Text.trimStart s) = visible s := by
  rw [Text.trimStart, visible_ofList, visibleChars_eq, Text.filter_dropWhile_isBlank, visible,
    visibleChars_eq]

@[simp] theorem visible_trimEnd (s : String) : visible (Text.trimEnd s) = visible s := by
  rw [Text.trimEnd, visible_ofList, visibleChars_eq, List.filter_reverse,
    Text.filter_dropWhile_isBlank, List.filter_reverse, List.reverse_reverse, visible,
    visibleChars_eq]

end Atom

/-! ### Fragments -/

namespace FragmentNode

@[simp] theorem atoms_text (s : String) : (text s).atoms = Atom.visible s := List.append_nil _

@[simp] theorem atoms_lineBreak : lineBreak.atoms = [.lineBreak] := rfl

theorem atoms_container (c : Container) (f : Fragment) :
    (Event.opening c :: eventsAll f ++ [Event.closing c]).flatMap Event.atoms =
      (Event.opening c).atoms ++ f.atoms ++ (Event.closing c).atoms := by
  rw [List.flatMap_append, List.flatMap_cons, List.flatMap_singleton]
  rfl

@[simp] theorem atoms_paragraph (f : Fragment) : (paragraph f).atoms = f.atoms := by
  rw [FragmentNode.atoms, events, atoms_container, Event.atoms, Event.atoms, List.nil_append,
    List.append_nil]

@[simp] theorem atoms_format (s : Style) (f : Fragment) :
    (format s f).atoms = .opening (.format s) :: f.atoms ++ [.closing (.format s)] :=
  atoms_container (.format s) f

@[simp] theorem atoms_link (h : LinkHead) (f : Fragment) :
    (link h f).atoms = .opening (.link h) :: f.atoms ++ [.closing (.link h)] :=
  atoms_container (.link h) f

end FragmentNode

namespace Fragment

@[simp] theorem atoms_nil : atoms [] = [] := rfl

@[simp] theorem atoms_cons (n : FragmentNode) (f : Fragment) :
    atoms (n :: f) = n.atoms ++ atoms f := List.flatMap_append

@[simp] theorem atoms_append (f g : Fragment) : atoms (f ++ g) = atoms f ++ atoms g := by
  induction f with
  | nil => rfl
  | cons n f ih => rw [List.cons_append, atoms_cons, atoms_cons, ih, List.append_assoc]

namespace Html
open DocStream.Html

/-! ### Edges -/

theorem atoms_trimFront (f : Fragment) : (trimFront f).atoms = f.atoms := by
  fun_induction trimFront f with
  | case1 => rfl
  | case2 s ns t hempty ih =>
    have hblank : Atom.visible s = [] := by
      rw [← Atom.visible_trimStart]
      exact Atom.visible_of_isEmpty hempty
    rw [ih, atoms_cons, FragmentNode.atoms_text, hblank, List.nil_append]
  | case3 s ns t hkeep => simp [t]
  | case4 n ns hn => rfl

theorem atoms_reverse_trimBack (f : Fragment) : atoms (trimBack f).reverse = atoms f.reverse := by
  fun_induction trimBack f with
  | case1 => rfl
  | case2 s ns t hempty ih =>
    have hblank : Atom.visible s = [] := by
      rw [← Atom.visible_trimEnd]
      exact Atom.visible_of_isEmpty hempty
    rw [ih, List.reverse_cons, atoms_append, atoms_cons, FragmentNode.atoms_text, hblank,
      atoms_nil, List.append_nil, List.append_nil]
  | case3 s ns t hkeep => simp [t]
  | case4 n ns hn => rfl

theorem atoms_trim (f : Fragment) : (trim f).atoms = f.atoms := by
  rw [trim, atoms_reverse_trimBack, List.reverse_reverse, atoms_trimFront]

theorem atoms_paragraphOf (run : Fragment) : (paragraphOf run).atoms = run.atoms := by
  rw [← atoms_trim run, paragraphOf]
  cases trim run with
  | nil => rfl
  | cons n f => simp

/-! ### Elements -/

def styledElements : List (String × Style) :=
  [("strong", .bold), ("b", .bold), ("em", .italic), ("i", .italic), ("code", .monospace),
   ("tt", .monospace), ("kbd", .monospace), ("sup", .superscript), ("sub", .subscript),
   ("u", .underlined), ("ins", .underlined), ("del", .strikedout), ("s", .strikedout),
   ("strike", .strikedout)]

def silentElements : List String := ["script", "style", "template", "head"]

theorem styleOf_eq_lookup (name : String) : styleOf name = styledElements.lookup name := by
  unfold styleOf
  split <;> try rfl
  -- a name in none of the rows
  symm
  simp_all [List.lookup_eq_none_iff, styledElements]

theorem contains_droppedNames_iff {name : String} :
    droppedNames.contains name = true ↔ name ∈ silentElements := List.contains_iff_mem

inductive Inlined (attributes : List DocStream.Html.Attribute) (children : List Dom) :
    String → Fragment → Prop where
  | styled {name : String} {s : Style} (hstyle : styledElements.lookup name = some s) :
    Inlined attributes children name [.format s (inlineAll children)]
  | lineBreak : Inlined attributes children "br" [.lineBreak]
  | link {h : LinkHead} (hlink : linkHead attributes = some h) :
    Inlined attributes children "a" [.link h (inlineAll children)]
  | silent {name : String} (hsilent : name ∈ silentElements) :
    Inlined attributes children name []
  | content {name : String} (hstyle : styledElements.lookup name = none) (hbr : name ≠ "br")
      (hlink : name = "a" → linkHead attributes = none) (hsilent : name ∉ silentElements) :
    Inlined attributes children name (inlineAll children)

theorem inline_spec (name : String) (attributes : List DocStream.Html.Attribute)
    (children : List Dom) :
    Inlined attributes children name (inline (.element name attributes children)) := by
  rw [inline, styleOf_eq_lookup]
  split
  next s hs => exact .styled hs
  next hs =>
    split
    next hbr =>
      subst hbr
      exact .lineBreak
    next hbr =>
      split
      next ha =>
        subst ha
        cases hlink : linkHead attributes with
        | none => exact .content hs hbr (fun _ => hlink) (by decide)
        | some h => exact .link hlink
      next ha =>
        split
        next hsilent => exact .silent (contains_droppedNames_iff.1 hsilent)
        next hsilent =>
          exact .content hs hbr (fun h => absurd h ha) fun h =>
            hsilent (contains_droppedNames_iff.2 h)

/-! ### Bodies -/

/-- The style or link that an element marks its content with. -/
def mark (name : String) (attributes : List DocStream.Html.Attribute) : Option Container :=
  match styledElements.lookup name with
  | some s => some (.format s)
  | none => if name = "a" then (linkHead attributes).map .link else none

mutual

/-- What shows of a node and of what it holds, in the order in which it is written. -/
def reading : Dom → List Atom
  | .text s => Atom.visible s
  | .comment => []
  | .element name attributes children =>
    if name ∈ silentElements then []
    else if name = "br" then .lineBreak :: readingAll children
    else
      match mark name attributes with
      | some c => .opening c :: readingAll children ++ [.closing c]
      | none => readingAll children

def readingAll : List Dom → List Atom
  | [] => []
  | d :: ds => reading d ++ readingAll ds

end

mutual

def BreaksEmpty : Dom → Prop
  | .text _ => True
  | .comment => True
  | .element name _ children => (name = "br" → children = []) ∧ AllBreaksEmpty children

def AllBreaksEmpty : List Dom → Prop
  | [] => True
  | d :: ds => BreaksEmpty d ∧ AllBreaksEmpty ds

end

theorem lookup_of_silent : ∀ name ∈ silentElements, styledElements.lookup name = none := by decide

theorem unmarked_of_block : ∀ name ∈ "p" :: blockNames,
    name ∉ silentElements ∧ name ≠ "br" ∧ name ≠ "a" ∧ styledElements.lookup name = none := by
  decide

theorem name_of_lookup {name : String} {s : Style} (h : styledElements.lookup name = some s) :
    name ∉ silentElements ∧ name ≠ "br" := by
  constructor
  · intro hsilent
    rw [lookup_of_silent name hsilent] at h
    cases h
  · rintro rfl
    cases h

section
variable {name : String} (attributes : List DocStream.Html.Attribute) (children : List Dom)

theorem reading_silent (h : name ∈ silentElements) :
    reading (.element name attributes children) = [] := by
  rw [reading, if_pos h]

theorem reading_break :
    reading (.element "br" attributes children) = .lineBreak :: readingAll children := by
  rw [reading, if_neg (by decide), if_pos rfl]

theorem reading_kept (hsilent : name ∉ silentElements) (hbr : name ≠ "br") :
    reading (.element name attributes children) =
      match mark name attributes with
      | some c => .opening c :: readingAll children ++ [.closing c]
      | none => readingAll children := by
  rw [reading, if_neg hsilent, if_neg hbr]

theorem mark_of_lookup {s : Style} (h : styledElements.lookup name = some s) :
    mark name attributes = some (.format s) := by
  rw [mark, h]

theorem mark_eq_none (hstyle : styledElements.lookup name = none)
    (hlink : name = "a" → linkHead attributes = none) : mark name attributes = none := by
  rw [mark, hstyle]
  by_cases ha : name = "a"
  · simp [ha, hlink ha]
  · simp [ha]

theorem mark_anchor : mark "a" attributes = (linkHead attributes).map .link := rfl

theorem mark_anchor_eq_some_iff {head : LinkHead} :
    mark "a" attributes = some (.link head) ↔ HeadOf attributes head := by
  rw [mark_anchor, ← linkHead_eq_some_iff]
  simp

end

theorem reading_block {name : String} {attributes : List DocStream.Html.Attribute}
    {children : List Dom} (h : isBlock (.element name attributes children) = true) :
    reading (.element name attributes children) = readingAll children := by
  have hname : name ∈ "p" :: blockNames := by simpa [isBlock] using h
  obtain ⟨hsilent, hbr, ha, hstyle⟩ := unmarked_of_block name hname
  have hmark : mark name attributes = none := mark_eq_none attributes hstyle fun h => absurd h ha
  rw [reading_kept attributes children hsilent hbr, hmark]

mutual

theorem atoms_inline : ∀ d : Dom, BreaksEmpty d → (inline d).atoms = reading d
  | .text s, _ => by
    rw [inline, reading]
    split
    next hempty =>
      rw [← Atom.visible_collapseBlanks, Atom.visible_of_isEmpty hempty]
      rfl
    next => simp
  | .comment, _ => by
    rw [inline, reading]
    rfl
  | .element name attributes children, h => by
    have hchildren : (inlineAll children).atoms = readingAll children :=
      atoms_inlineAll children h.2
    have hspec := inline_spec name attributes children
    generalize inline (.element name attributes children) = f at hspec
    cases hspec with
    | styled hstyle =>
      obtain ⟨hsilent, hbr⟩ := name_of_lookup hstyle
      rw [reading_kept attributes children hsilent hbr, mark_of_lookup attributes hstyle]
      simp [hchildren]
    | lineBreak =>
      have hnil : children = [] := h.1 rfl
      rw [reading_break, hnil, readingAll]
      rfl
    | link hlink =>
      rw [reading_kept attributes children (by decide) (by decide), mark_anchor, hlink]
      simp [hchildren]
    | silent hsilent =>
      rw [reading_silent attributes children hsilent]
      rfl
    | content hstyle hbr hlink hsilent =>
      rw [reading_kept attributes children hsilent hbr, mark_eq_none attributes hstyle hlink]
      exact hchildren

theorem atoms_inlineAll :
    ∀ ds : List Dom, AllBreaksEmpty ds → (inlineAll ds).atoms = readingAll ds
  | [], _ => by
    rw [inlineAll, readingAll]
    rfl
  | d :: ds, h => by
    rw [inlineAll, readingAll, atoms_append, atoms_inline d h.1, atoms_inlineAll ds h.2]

end

mutual

theorem atoms_ofBlock : ∀ d : Dom, isBlock d = true → BreaksEmpty d →
    (ofBlock blocks d).atoms = reading d
  | .text _, hd, _ => nomatch hd
  | .comment, hd, _ => nomatch hd
  | .element name attributes children, hd, h => by
    rw [reading_block hd, ofBlock]
    split
    next =>
      rw [atoms_cons, atoms_nil, List.append_nil, FragmentNode.atoms_paragraph, atoms_trim,
        ← inlineAll_eq_flatMap, atoms_inlineAll children h.2]
    next =>
      rw [blocks_eq_blocksAfter, atoms_blocksAfter [] children h.2, atoms_nil, List.nil_append]

theorem atoms_blocksAfter (run : Fragment) : ∀ ds : List Dom, AllBreaksEmpty ds →
    (blocksAfter run ds).atoms = run.atoms ++ readingAll ds
  | [], _ => by rw [blocksAfter_nil, atoms_paragraphOf, readingAll, List.append_nil]
  | d :: ds, h => by
    rw [readingAll]
    cases hd : isBlock d with
    | true =>
      rw [blocksAfter_block hd, blocks_eq_blocksAfter, atoms_append, atoms_append,
        atoms_paragraphOf, atoms_ofBlock d hd h.1, atoms_blocksAfter [] ds h.2, atoms_nil,
        List.nil_append, List.append_assoc]
    | false =>
      rw [blocksAfter_inline hd, atoms_blocksAfter _ ds h.2, atoms_append, atoms_inline d h.1,
        List.append_assoc]

end

theorem events_blocks_show_body (ds : List Dom) (h : AllBreaksEmpty ds) :
    (events (blocks ds)).flatMap Event.atoms = readingAll ds ∧
      ∀ attributes head, mark "a" attributes = some (.link head) ↔ HeadOf attributes head := by
  refine ⟨?_, fun attributes head => mark_anchor_eq_some_iff attributes⟩
  have hafter := atoms_blocksAfter [] ds h
  rwa [atoms_nil, List.nil_append, ← blocks_eq_blocksAfter] at hafter

theorem events_blocks_show_body_nested :
    let address : DocStream.Html.Attribute := ⟨"href", "x"⟩
    let head : LinkHead := { reference := { kind := .path, target := "x", typed := false } }
    let ds : List Dom :=
      [.element "em" [] [.element "p" [] [.text " b"]], .element "br" [] [],
        .element "div" [] [.text "\t", .element "a" [address] [.text "d"]],
        .element "script" [] [.text "e"]]
    AllBreaksEmpty ds ∧
      readingAll ds = [.opening (.format .italic), .char 'b', .closing (.format .italic),
        .lineBreak, .opening (.link head), .char 'd', .closing (.link head)] ∧
      (events (blocks ds)).flatMap Event.atoms = readingAll ds ∧ HeadOf [address] head := by
  intro address head ds
  have h : AllBreaksEmpty ds := by simp [ds, AllBreaksEmpty, BreaksEmpty]
  obtain ⟨hshown, hhead⟩ := events_blocks_show_body ds h
  refine ⟨h, ?_, hshown, (hhead [address] head).1 (by decide)⟩
  unfold ds address
  rfl

end Html

end Fragment

end DocStream
