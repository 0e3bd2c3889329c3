import DocStream.Proofs.DocumentEnding
import DocStream.Proofs.WhiteSpace

/-! What shows of the end of a document in the fragment that is read from its body. Links are made
of attributes, and texts of texts with less white space, so a tree without the end mark as a whole
gives a fragment without it. -/

namespace DocStream

namespace Dictionary
variable {α : Type} {l : List (String × α)} {p : String × α}

theorem mem_insertEntry {k : String} {v : α} (h : p ∈ insertEntry k v l) : p = (k, v) ∨ p ∈ l := by
  fun_induction insertEntry k v l <;> grind

theorem mem_foldl_insert {d : Dictionary α}
    (h : p ∈ (l.foldl (fun d p => d.insert p.1 p.2) d).entries) : p ∈ d.entries ∨ p ∈ l := by
  induction l generalizing d with
  | nil => exact .inl h
  | cons q l ih =>
    obtain hd | hl := ih h
    · obtain rfl | hd := mem_insertEntry hd
      · exact .inr List.mem_cons_self
      · exact .inl hd
    · exact .inr (List.mem_cons_of_mem q hl)

theorem mem_of_mem_ofList (h : p ∈ (ofList l).entries) : p ∈ l :=
  (mem_foldl_insert h).resolve_left List.not_mem_nil

end Dictionary

def Reference.Clear (r : Reference) : Prop :=
  ¬ Html.endMark <:+: r.target.toList ∧
    ∀ p ∈ r.parameters.entries,
      ¬ Html.endMark <:+: p.1.toList ∧ ¬ Html.endMark <:+: p.2.toList

/-- No link shows the end mark, and no text shows it without permission. -/
def Event.Clear (spelt : Prop) : Event → Prop
  | .text s => Html.endMark <:+: s.toList → spelt
  | .opening (.link h) | .closing (.link h) => h.reference.Clear
  | _ => True

variable {spelt : Prop}

namespace Html

mutual

def Dom.Clear (spelt : Prop) : Dom → Prop
  | .text s => endMark <:+: s.toList → spelt
  | .comment => True
  | .element _ attributes children => (∀ a ∈ attributes, a.Clear) ∧ Dom.AllClear spelt children

def Dom.AllClear (spelt : Prop) : List Dom → Prop
  | [] => True
  | d :: ds => d.Clear spelt ∧ Dom.AllClear spelt ds

end

theorem Dom.allClear_iff {ds : List Dom} :
    Dom.AllClear spelt ds ↔ ∀ d ∈ ds, d.Clear spelt := by
  induction ds with
  | nil => simp [Dom.AllClear]
  | cons d ds ih => simp [Dom.AllClear, ih]

theorem dom_clear {b : Builder} (hb : b.Settled spelt []) (height i : Nat) :
    (b.dom height i).Clear spelt := by
  induction height generalizing i with
  | zero => trivial
  | succ height ih =>
    have hcontent := clear_of_settled hb i
    rw [Builder.dom]
    split
    next h =>
      rw [h] at hcontent
      refine ⟨hcontent, Dom.allClear_iff.mpr ?_⟩
      simpa using fun d _ => ih d
    next s h =>
      rw [h] at hcontent
      exact fun hmark => hcontent ⟨[], List.Sublist.refl [], by rwa [List.append_nil]⟩
    next => trivial
    next => trivial

theorem body_clear {b : Builder} (hb : b.Settled spelt []) : Dom.AllClear spelt b.body := by
  rw [Dom.allClear_iff, Builder.body]
  simpa using fun i _ => dom_clear hb b.nodes.size i

end Html

namespace Fragment.Html
open DocStream.Html FragmentNode

/-! ### Links -/

theorem target_referenceTo (address : String) : (referenceTo address).target = address := by
  unfold referenceTo
  split <;> rfl

theorem linkHead_clear {attributes : List DocStream.Html.Attribute} {head : LinkHead}
    (h : linkHead attributes = some head) (hclear : ∀ a ∈ attributes, a.Clear) :
    head.reference.Clear := by
  unfold linkHead at h
  split at h
  · cases h
  next address hfind =>
    obtain rfl := Option.some.inj h
    have haddress := hclear address (List.mem_of_find?_eq_some hfind)
    refine ⟨?_, fun p hp => ?_⟩
    · rw [target_referenceTo]
      exact haddress.2
    · obtain ⟨a, ha, rfl⟩ := List.mem_map.mp (Dictionary.mem_of_mem_ofList hp)
      -- a name has no slash, so no mark either
      obtain ⟨hname, hvalue⟩ := hclear a (List.mem_of_mem_filter ha)
      exact ⟨fun h => hname (h.subset (by decide)), hvalue⟩

/-! ### Texts -/

section Collapse
variable {word cs : List Char}

theorem eq_nil_of_blank {c : Char} (hword : ∀ c ∈ word, Text.isBlank c = false)
    (hblank : Text.isBlank c = true) (h : word <+: c :: cs) : word = [] := by
  cases word with
  | nil => rfl
  | cons w word =>
    obtain rfl : w = c := (List.cons_prefix_cons.mp h).1
    exact absurd hblank (Bool.eq_false_iff.mp (hword w List.mem_cons_self))

theorem prefix_of_collapsed (hword : ∀ c ∈ word, Text.isBlank c = false)
    (h : word <+: Text.collapse cs) : word <+: cs := by
  fun_induction Text.collapse cs generalizing word with
  | case1 => exact h
  | case2 c cs hblank hnext ih =>
    cases cs with
    | nil => cases hnext
    | cons d cs =>
      rw [eq_nil_of_blank hword hnext (ih hword h)]
      exact List.nil_prefix
  | case3 c cs hblank hnext ih =>
    rw [eq_nil_of_blank hword (by decide) h]
    exact List.nil_prefix
  | case4 c cs hblank ih =>
    cases word with
    | nil => exact List.nil_prefix
    | cons w word =>
      obtain ⟨hw, h⟩ := List.cons_prefix_cons.mp h
      exact List.cons_prefix_cons.mpr ⟨hw, ih (List.forall_mem_cons.mp hword).2 h⟩

theorem infix_of_collapsed (hword : ∀ c ∈ word, Text.isBlank c = false)
    (h : word <:+: Text.collapse cs) : word <:+: cs := by
  fun_induction Text.collapse cs with
  | case1 => exact h
  | case2 c cs hblank hnext ih => exact List.infix_cons (ih h)
  | case3 c cs hblank hnext ih =>
    obtain h | h := List.infix_cons_iff.mp h
    · rw [eq_nil_of_blank hword (by decide) h]
      exact List.nil_infix
    · exact List.infix_cons (ih h)
  | case4 c cs hblank ih =>
    obtain h | h := List.infix_cons_iff.mp h
    · have hprefix : word <+: Text.collapse (c :: cs) := by rwa [Text.collapse, if_neg hblank]
      exact (prefix_of_collapsed hword hprefix).isInfix
    · exact List.infix_cons (ih h)

theorem isBlank_endMark : ∀ c ∈ endMark, Text.isBlank c = false :=
  List.forall_iff_forall_mem.mp (by decide)

end Collapse

/-! ### Bodies -/

def ClearNode (spelt : Prop) (n : FragmentNode) : Prop := ∀ e ∈ n.events, e.Clear spelt

theorem forall_mem_eventsAll {P : Event → Prop} {f : Fragment} :
    (∀ e ∈ eventsAll f, P e) ↔ ∀ n ∈ f, ∀ e ∈ n.events, P e := by
  induction f with
  | nil => simp [eventsAll]
  | cons n f ih => rw [eventsAll, List.forall_mem_append, ih, List.forall_mem_cons]

theorem clearNode_text {s : String} :
    ClearNode spelt (.text s) ↔ (endMark <:+: s.toList → spelt) := List.forall_mem_singleton

theorem clearNode_enclosed {c : Container} {f : Fragment}
    (hopen : (Event.opening c).Clear spelt) (hclose : (Event.closing c).Clear spelt)
    (hf : ∀ n ∈ f, ClearNode spelt n) :
    ∀ e ∈ Event.opening c :: eventsAll f ++ [Event.closing c], e.Clear spelt := by
  simp only [List.cons_append, List.forall_mem_cons, List.forall_mem_append]
  exact ⟨hopen, forall_mem_eventsAll.mpr hf, hclose, List.forall_mem_nil _⟩

theorem clear_trim {f : Fragment} (h : ∀ n ∈ f, ClearNode spelt n) :
    ∀ n ∈ trim f, ClearNode spelt n := by
  refine forall_mem_trim (fun s hs _ => ?_) (fun s hs _ => ?_) h
  · exact clearNode_text.mpr fun hmark =>
      clearNode_text.mp hs (hmark.trans (Text.trimStart_isSuffix s).isInfix)
  · exact clearNode_text.mpr fun hmark =>
      clearNode_text.mp hs (hmark.trans (Text.trimEnd_isPrefix s).isInfix)

theorem clear_paragraphOf {run : Fragment} (h : ∀ n ∈ run, ClearNode spelt n) :
    ∀ n ∈ paragraphOf run, ClearNode spelt n := by
  unfold paragraphOf
  dsimp only
  split
  · exact nofun
  · rw [List.forall_mem_singleton]
    exact clearNode_enclosed trivial trivial (clear_trim h)

mutual

theorem clear_inline : ∀ d : Dom, d.Clear spelt → ∀ n ∈ inline d, ClearNode spelt n
  | .text s, h => by
    rw [inline]
    split
    · exact nofun
    next =>
      rw [List.forall_mem_singleton, clearNode_text, Text.collapseBlanks, String.toList_ofList]
      exact fun hmark => h (infix_of_collapsed isBlank_endMark hmark)
  | .comment, _ => by
    rw [inline]
    exact nofun
  | .element name attributes children, ⟨hattributes, hchildren⟩ => by
    have hinside := clear_inlineAll children hchildren
    have hspec := inline_spec name attributes children
    generalize inline (.element name attributes children) = f at hspec
    cases hspec with
    | styled hstyle =>
      rw [List.forall_mem_singleton]
      exact clearNode_enclosed trivial trivial hinside
    | lineBreak =>
      rw [List.forall_mem_singleton]
      exact List.forall_mem_singleton.mpr trivial
    | link hlink =>
      rw [List.forall_mem_singleton]
      have hhead := linkHead_clear hlink hattributes
      exact clearNode_enclosed hhead hhead hinside
    | silent hsilent => exact nofun
    | content hstyle hbr hlink hsilent => exact hinside

theorem clear_inlineAll :
    ∀ ds : List Dom, Dom.AllClear spelt ds → ∀ n ∈ inlineAll ds, ClearNode spelt n
  | [], _ => by
    rw [inlineAll]
    exact nofun
  | d :: ds, ⟨hd, hds⟩ => by
    rw [inlineAll]
    exact List.forall_mem_append.mpr ⟨clear_inline d hd, clear_inlineAll ds hds⟩

end

mutual

theorem clear_ofBlock : ∀ d : Dom, d.Clear spelt → ∀ n ∈ ofBlock blocks d, ClearNode spelt n
  | .text _, _ => List.forall_mem_nil _
  | .comment, _ => List.forall_mem_nil _
  | .element name attributes children, ⟨_, hchildren⟩ => by
    rw [ofBlock]
    split
    next =>
      rw [← inlineAll_eq_flatMap, List.forall_mem_singleton]
      exact clearNode_enclosed trivial trivial (clear_trim (clear_inlineAll children hchildren))
    next => exact clear_blocksAfter (List.forall_mem_nil _) children hchildren

theorem clear_blocksAfter {run : Fragment} (h : ∀ n ∈ run, ClearNode spelt n) :
    ∀ ds : List Dom, Dom.AllClear spelt ds → ∀ n ∈ blocksAfter run ds, ClearNode spelt n
  | [], _ => by
    rw [blocksAfter_nil]
    exact clear_paragraphOf h
  | d :: ds, ⟨hd, hds⟩ => by
    cases hblock : isBlock d with
    | true =>
      rw [blocksAfter_block hblock]
      have hrest : ∀ n ∈ blocks ds, ClearNode spelt n :=
        clear_blocksAfter (List.forall_mem_nil _) ds hds
      simp only [List.forall_mem_append]
      exact ⟨⟨clear_paragraphOf h, clear_ofBlock d hd⟩, hrest⟩
    | false =>
      rw [blocksAfter_inline hblock]
      exact clear_blocksAfter (List.forall_mem_append.mpr ⟨h, clear_inline d hd⟩) ds hds

end

theorem eq_blocks_of_reader {strict : Bool} {text : String} {f : Fragment}
    (h : reader strict text = .ok f) : f = blocks (Document.ofBody text).body := by
  unfold reader at h
  dsimp only at h
  split at h
  · cases h
  · exact (Except.ok.inj h).symm

/-- Where a text leaves no content open that swallows the end of the document, its mark as a whole
stands in no target, key or value of a link, and in no text that did not show it before the end was
read. A text that did was spelled by the author, with plain characters that markup may have kept
apart. Pieces of the end may show all the same: a tag that is still open behind a quoted value takes
`<` and `body` for names of attributes, and a link has them as keys. -/
theorem ending_hidden {text : String} {f : Fragment} {strict : Bool} (hamp : '&' ∉ text.toList)
    (hmark : ¬ endMark <:+: text.toList)
    (hopen : (Document.textOf text).lexer.state.swallows = false)
    (hread : reader strict text = .ok f) :
    (∀ h, Event.opening (.link h) ∈ f.events →
      ¬ endMark <:+: h.reference.target.toList ∧
        ∀ p ∈ h.reference.parameters.entries,
          ¬ endMark <:+: p.1.toList ∧ ¬ endMark <:+: p.2.toList) ∧
    ∀ s, Event.text s ∈ f.events → endMark <:+: s.toList →
      (Document.textOf text).builder.Shows ∧ endMark.Sublist (Document.textOf text).plain := by
  obtain ⟨hplain, b, hb, hbody⟩ := settled_ofBody hamp hmark hopen
  have hclear : ∀ e ∈ (blocks (Document.ofBody text).body).events,
      e.Clear (Document.textOf text).builder.Shows := by
    rw [hbody]
    exact forall_mem_eventsAll.mpr (clear_blocksAfter (List.forall_mem_nil _) _ (body_clear hb))
  obtain rfl := eq_blocks_of_reader hread
  refine ⟨fun h hlink => hclear _ hlink, fun s hs hmark => ?_⟩
  have hshows := hclear _ hs hmark
  exact ⟨hshows, hplain hshows⟩

theorem ending_hidden_open_quote :
    let text := "see <a href=b>it</a> <i title=\"x"
    let f := blocks (Document.ofBody text).body
    ('&' ∉ text.toList ∧ ¬ endMark <:+: text.toList ∧
      (Document.textOf text).lexer.state.swallows = false ∧ reader false text = .ok f) ∧
    f.events =
      [.opening .paragraph, .text "see ",
        .opening (.link { reference := { kind := .path, target := "b", typed := false } }),
        .text "it",
        .closing (.link { reference := { kind := .path, target := "b", typed := false } }),
        .closing .paragraph] ∧
    (∀ h, Event.opening (.link h) ∈ f.events →
      ¬ endMark <:+: h.reference.target.toList ∧
        ∀ p ∈ h.reference.parameters.entries,
          ¬ endMark <:+: p.1.toList ∧ ¬ endMark <:+: p.2.toList) ∧
    ∀ s, Event.text s ∈ f.events → endMark <:+: s.toList →
      (Document.textOf text).builder.Shows ∧ endMark.Sublist (Document.textOf text).plain := by
  intro text f
  have hamp : '&' ∉ text.toList := by decide
  have hmark : ¬ endMark <:+: text.toList := by decide
  have hopen : (Document.textOf text).lexer.state.swallows = false := by decide +kernel
  have hread : reader false text = .ok f := rfl
  exact ⟨⟨hamp, hmark, hopen, hread⟩, by decide +kernel, ending_hidden hamp hmark hopen hread⟩

theorem title_swallows_ending :
    '&' ∉ "<title>x".toList ∧ ¬ endMark <:+: "<title>x".toList ∧
      ∃ f, reader false "<title>x" = .ok f ∧
        f.events = [.opening .paragraph, .text "x</body></html>", .closing .paragraph] ∧
        endMark <:+: "x</body></html>".toList :=
  ⟨by decide, by decide, blocks (Document.ofBody "<title>x").body, rfl, by decide +kernel,
    by decide⟩

end Fragment.Html

end DocStream
