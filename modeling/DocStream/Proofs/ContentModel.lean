import DocStream.Proofs.FirstFailure
import DocStream.Proofs.FragmentContent

/-! The grammar of the stream. In the tree of a document read with HTML texts and plain titles,
blocks hold blocks, items stand in lists alone, a header holds a line of text or several, and text
is held by paragraphs, styles, links and items, of which only items hold blocks as well. -/

namespace DocStream

namespace Event

def isLeaf : Event → Bool
  | text _ => true
  | lineBreak => true
  | _ => false

def isPhrasing : Event → Bool
  | text _ => true
  | lineBreak => true
  | opening (.format _) => true
  | opening (.link _) => true
  | _ => false

/-- A block begins here. An item is one under a list only. -/
def isFlow (inList : Bool) : Event → Bool
  | opening .sect => true
  | opening (.header ..) => true
  | opening (.list _) => true
  | opening .paragraph => true
  | opening .listItem => inList
  | _ => false

end Event

/-- The content model: whether a container may hold what begins with an event. Nothing holds a
document. -/
def Container.admits : Container → Event → Bool
  | document _, e => e.isFlow false
  | sect, e => e.isFlow false
  | list _, e => e.isFlow true
  | listItem, e => e.isFlow false || e.isPhrasing
  | header .., e => e.isLeaf
  | paragraph, e => e.isPhrasing
  | format _, e => e.isPhrasing
  | link _, e => e.isPhrasing

namespace Tree

def head : Tree → Event
  | leaf e => e
  | node o _ _ => o

mutual

def Conforms : Tree → Prop
  | leaf _ => True
  | node (.opening c) _ children => AllConform c.admits children
  | node _ _ _ => False

def AllConform (allowed : Event → Bool) : List Tree → Prop
  | [] => True
  | t :: ts => (allowed t.head = true ∧ t.Conforms) ∧ AllConform allowed ts

end

variable {allowed : Event → Bool}

theorem allConform_iff {ts : List Tree} :
    AllConform allowed ts ↔ ∀ t ∈ ts, allowed t.head = true ∧ t.Conforms := by
  induction ts with
  | nil => simp [AllConform]
  | cons t ts ih => simp [AllConform, ih]

theorem allConform_append {ts us : List Tree} (hts : AllConform allowed ts)
    (hus : AllConform allowed us) : AllConform allowed (ts ++ us) :=
  allConform_iff.2 (List.forall_mem_append.2 ⟨allConform_iff.1 hts, allConform_iff.1 hus⟩)

theorem allConform_mono {wider : Event → Bool} (h : ∀ e, allowed e = true → wider e = true)
    {ts : List Tree} (hts : AllConform allowed ts) : AllConform wider ts :=
  allConform_iff.2 fun t ht => ⟨h _ (allConform_iff.1 hts t ht).1, (allConform_iff.1 hts t ht).2⟩

theorem allConform_container {c : Container} {ts : List Tree}
    (hc : allowed (.opening c) = true) (hts : AllConform c.admits ts) :
    AllConform allowed [container c ts] := ⟨⟨hc, hts⟩, trivial⟩

end Tree

theorem Event.isFlow_of_not_inList {e : Event} (inList : Bool) (h : e.isFlow false = true) :
    e.isFlow inList = true := by
  unfold isFlow at h ⊢
  split at h
  case h_5 => cases h
  case h_6 => cases h
  all_goals rfl

namespace FragmentNode
open DocStream.Tree

theorem allConform_trees_of_forall {allowed : Event → Bool} {ns : List FragmentNode}
    (h : ∀ n ∈ ns, allowed n.tree.head = true ∧ n.tree.Conforms) :
    AllConform allowed (trees ns) := by
  induction ns with
  | nil => trivial
  | cons n ns ih =>
    rw [List.forall_mem_cons] at h
    exact ⟨h.1, ih h.2⟩

mutual

theorem conforms_of_isPhrasing :
    ∀ n : FragmentNode, n.IsPhrasing → n.tree.head.isPhrasing = true ∧ n.tree.Conforms
  | paragraph _, h => h.elim
  | format _ cs, h => ⟨rfl, allConform_of_allPhrasing cs h⟩
  | link _ cs, h => ⟨rfl, allConform_of_allPhrasing cs h⟩
  | text _, _ => ⟨rfl, trivial⟩
  | lineBreak, _ => ⟨rfl, trivial⟩

theorem allConform_of_allPhrasing :
    ∀ ns : List FragmentNode, AllPhrasing ns → AllConform Event.isPhrasing (trees ns)
  | [], _ => trivial
  | n :: ns, h => ⟨conforms_of_isPhrasing n h.1, allConform_of_allPhrasing ns h.2⟩

end

theorem conforms_of_isFlow {n : FragmentNode} (h : n.IsFlow) :
    n.tree.head.isFlow false = true ∧ n.tree.Conforms := by
  obtain ⟨cs, rfl, hcs⟩ := h
  exact ⟨rfl, allConform_of_allPhrasing cs hcs⟩

theorem conforms_of_isLeaf {n : FragmentNode} (h : n.IsLeaf) :
    n.tree.head.isLeaf = true ∧ n.tree.Conforms := by
  cases n with
  | text s => exact ⟨rfl, trivial⟩
  | lineBreak => exact ⟨rfl, trivial⟩
  | paragraph cs => cases h
  | format style cs => cases h
  | link head cs => cases h

end FragmentNode

namespace Walker
open DocStream.Tree FragmentNode Fragment

structure ReadsHtml (w : Walker) : Prop where
  inline : Html.ReadsBodies w.inline
  plain : w.plain = Plain.reader

theorem allConform_textTrees (w : Walker) {read : FragmentReader} {strip : Bool}
    {allowed : Event → Bool} {P : FragmentNode → Prop}
    (hchange : ∀ n, P n → P (n.mapLinksFrom (fun (_ : Unit) l => ((), l.reclassify w.wiki)) ()).2)
    (htree : ∀ n, P n → allowed n.tree.head = true ∧ n.tree.Conforms) {text : String}
    (h : ∀ f, read text = .ok f → ∀ n ∈ if strip then f.stripWrapper else f, P n) :
    AllConform allowed (w.textTrees read text strip) := by
  unfold Walker.textTrees Fragment.textTrees
  split
  next f hf =>
    exact allConform_trees_of_forall fun n hn =>
      htree n (forall_mem_reclassify w.wiki hchange (h f hf) n hn)
  next => trivial

variable {w : Walker}

theorem ReadsHtml.title (hw : w.ReadsHtml) (title : String) :
    AllConform Event.isLeaf (w.textTrees w.plain title true) := by
  refine w.allConform_textTrees (fun n => isLeaf_mapLinksFrom () n)
    (fun n => conforms_of_isLeaf) fun f hf => ?_
  rw [hw.plain] at hf
  obtain rfl : Plain.read title = f := Except.ok.inj hf
  exact Plain.forall_mem_stripWrapper_read title

theorem ReadsHtml.content (hw : w.ReadsHtml) (content : String) :
    AllConform (Event.isFlow false) (w.textTrees w.inline content false) := by
  refine w.allConform_textTrees (fun n => isFlow_mapLinksFrom () n)
    (fun n => conforms_of_isFlow) fun f hf => ?_
  obtain ⟨body, rfl⟩ := hw.inline content f hf
  exact Html.forall_mem_blocks body

theorem ReadsHtml.item (hw : w.ReadsHtml) (text : String) :
    AllConform Container.listItem.admits (w.textTrees w.inline text true) := by
  refine w.allConform_textTrees (P := fun n => n.IsFlow ∨ n.IsPhrasing) (fun n hn => ?_)
    (fun n hn => ?_) fun f hf => ?_
  · exact hn.imp (isFlow_mapLinksFrom () n) (isPhrasing_mapLinksFrom () n)
  · obtain hn | hn := hn
    · obtain ⟨hhead, hconforms⟩ := conforms_of_isFlow hn
      exact ⟨by simp [Container.admits, hhead], hconforms⟩
    · obtain ⟨hhead, hconforms⟩ := conforms_of_isPhrasing n hn
      exact ⟨by simp [Container.admits, hhead], hconforms⟩
  · obtain ⟨body, rfl⟩ := hw.inline text f hf
    exact forall_mem_stripWrapper (Html.forall_mem_blocks body)

/-! ### Blocks -/

theorem allConform_nestSections (level : Nat) {ts : List Tree}
    (h : AllConform (Event.isFlow false) ts) :
    AllConform (Event.isFlow false) (nestSections level ts) := by
  induction level with
  | zero => exact h
  | succ level ih => exact allConform_container rfl ih

theorem ReadsHtml.shell (hw : w.ReadsHtml) (inList : Bool) (kind : BlockKind) {ts : List Tree}
    (h : AllConform (Event.isFlow kind.isList) ts) :
    AllConform (Event.isFlow inList) (w.shell inList kind ts) := by
  have hwiden {us : List Tree} (hus : AllConform (Event.isFlow false) us) :
      AllConform (Event.isFlow inList) us :=
    allConform_mono (fun _ => Event.isFlow_of_not_inList inList) hus
  cases kind with
  | sect level id title =>
    have hheader : AllConform (Event.isFlow false)
        [container (.header level id) (w.textTrees w.plain title true)] :=
      allConform_container rfl (hw.title title)
    exact hwiden (allConform_nestSections level (allConform_append hheader h))
  | list context => exact allConform_container rfl h
  | listItem text =>
    cases inList with
    | false => exact h
    | true =>
      have hchildren : AllConform Container.listItem.admits ts :=
        allConform_mono (fun e (he : e.isFlow false = true) => by simp [Container.admits, he]) h
      exact allConform_container rfl (allConform_append (hw.item text) hchildren)
  | paragraph content => exact hwiden (allConform_append (hw.content content) h)
  | other context => exact hwiden h

mutual

theorem ReadsHtml.blockTrees (hw : w.ReadsHtml) (inList : Bool) :
    ∀ b : Block, AllConform (Event.isFlow inList) (w.blockTrees inList b)
  | .mk kind children => by
    rw [Walker.blockTrees]
    exact hw.shell inList kind (ReadsHtml.blocksTrees hw kind.isList children)

theorem ReadsHtml.blocksTrees (hw : w.ReadsHtml) (inList : Bool) :
    ∀ bs : List Block, AllConform (Event.isFlow inList) (w.blocksTrees inList bs)
  | [] => trivial
  | b :: bs => by
    rw [Walker.blocksTrees]
    exact allConform_append (ReadsHtml.blockTrees hw inList b)
      (ReadsHtml.blocksTrees hw inList bs)

end

end Walker

namespace Translator
open DocStream.Tree Fragment

theorem run_of_translate {t : Translator} {wiki : Bool} {d : Document} {es : List Event}
    (h : t.translate wiki d.blocks = .ok es) :
    es = (container (.document t.dialect)
      ((t.walker wiki).blocksTrees false d.blocks)).flatten := by
  obtain ⟨-, hrun⟩ | ⟨v, f, -, -, hrun⟩ := t.run_cases wiki d
  · exact (Except.ok.inj ((translate_of_run_done hrun).symm.trans h)).symm
  · cases (translate_of_run_fail hrun).symm.trans h

/-- Any reader of bodies will do for the texts, and those of HTML, strict or not, are such
readers. -/
theorem ofEvents_conforms :
    (∀ strict : Bool, Html.ReadsBodies (Html.reader strict)) ∧
    ∀ (t : Translator) (wiki : Bool) (d : Document) (es : List Event),
      Html.ReadsBodies t.inline → t.plain = Plain.reader → t.translate wiki d.blocks = .ok es →
      ∃ ts, Forest.ofEvents es = .ok [container (.document t.dialect) ts] ∧
        (container (.document t.dialect) ts).Conforms := by
  refine ⟨Html.readsBodies_reader, fun t wiki d es hinline hplain hes => ?_⟩
  have hw : (t.walker wiki).ReadsHtml := ⟨hinline, hplain⟩
  let ts : List Tree := (t.walker wiki).blocksTrees false d.blocks
  have hroot : AllWellFormed [container (.document t.dialect) ts] := by
    simpa [ts] using (t.walker wiki).allWellFormed_blocksTrees false d.blocks
  refine ⟨ts, ?_, hw.blocksTrees false d.blocks⟩
  rw [run_of_translate hes, ← Forest.ofEvents_flattenAll hroot, flattenAll_cons, flattenAll_nil,
    List.append_nil]

theorem ofEvents_conforms_nested :
    let body : List Html.Dom :=
      [.text "a ", .element "em" [] [.element "p" [] [.text "b"]], .element "p" [] [.text "c"]]
    let t : Translator := { inline := fun _ => .ok (Html.blocks body), plain := Plain.reader }
    let d : Document :=
      { blocks := [.mk (.list "ulist")
          [.mk (.listItem "") [.mk (.sect 1 none "T") []], .mk (.paragraph "") []]] }
    let text : List Tree := [.leaf (.text "a "), .container (.format .italic) [.leaf (.text "b")]]
    let tail : Tree := .container .paragraph [.leaf (.text "c")]
    let sect : Tree := .container .sect [.container (.header 1 none) [.leaf (.text "T")]]
    let root : Tree := .container (.document .asciiDoc)
      [.container (.list .unordered)
        [.container .listItem (text ++ [tail, sect]), .container .paragraph text, tail]]
    Html.ReadsBodies t.inline ∧ t.translate false d.blocks = .ok root.flatten ∧
      Forest.ofEvents root.flatten = .ok [root] ∧ root.Conforms := by
  intro body t d text tail sect root
  have hinline : Html.ReadsBodies t.inline := fun _ _ h => ⟨body, (Except.ok.inj h).symm⟩
  have hes : t.translate false d.blocks = .ok root.flatten := rfl
  obtain ⟨ts, hforest, hconforms⟩ :=
    ofEvents_conforms.2 t false d root.flatten hinline rfl hes
  have hroot : Forest.ofEvents root.flatten = .ok [root] := rfl
  have htree : container (.document t.dialect) ts = root := by
    simpa [hroot, eq_comm] using hforest
  exact ⟨hinline, hes, hroot, htree ▸ hconforms⟩

end Translator

end DocStream
